import TokenTariff.Json.Reader

/-!
# Envelopes

Answers come in an envelope, ours as well as those from the remote store. It tells whether the request
succeeded, and holds a message or data. Data may be missing, and so may the message.
-/

namespace TokenTariff

open Json

structure Envelope (α : Type) where
  success : Bool
  message : String := ""
  data : Option α := none

namespace Envelope

variable {α : Type}

def ok (data : α) (message : String := "") : Envelope α := ⟨true, message, some data⟩

def failure (message : String) : Envelope α := ⟨false, message, none⟩

def shape (r : Reader α) : Shape (Envelope α) where
  title := "struct ApiResponse"
  blank := { success := false }
  fields := [
    .required "success" Reader.bool fun b e => { e with success := b },
    .defaulted "message" Reader.text fun s e => { e with message := s },
    .optional "data" (Reader.optional r) fun x e => { e with data := x }]

def reader (r : Reader α) : Reader (Envelope α) := (shape r).reader

def toValue (data : α → Value) (e : Envelope α) : Value :=
  .ofMembers [
    ("success", .bool e.success), ("message", .text e.message),
    ("data", (e.data.map data).getD .null)]

end Envelope

end TokenTariff
