import TokenTariff.Json.Reader

/-!
# Settings

The remote store keeps its options as a list of keys with text values. Three of them hold the
tables of flat tariffs.
-/

namespace TokenTariff

open Json

structure Setting where
  key : String
  value : String := ""
deriving DecidableEq

namespace Setting

def shape : Shape Setting where
  title := "struct OptionItem"
  blank := { key := "" }
  fields := [
    .required "key" Reader.text fun s o => { o with key := s },
    .defaulted "value" Reader.text fun s o => { o with value := s }]

def reader : Reader Setting := shape.reader

def toValue (s : Setting) : Value := .ofMembers [("key", .text s.key), ("value", .text s.value)]

end Setting

def priceKey : String := "ModelPrice"

def ratioKey : String := "ModelRatio"

def completionKey : String := "CompletionRatio"

end TokenTariff
