import Mathlib
import TokenTariff.Proofs.Json.Fields
import TokenTariff.Proofs.Json.Values
import TokenTariff.Proofs.Remote.Exchanges
import TokenTariff.Proofs.Remote.Listing

/-!
# Refusals

A store on the web refuses a request by an envelope without success, which has a message that tells
why. An envelope is opened as a whole, with the data that the request asks for. So the message is
told just when all of the envelope can be read; else the answer counts as one that is no envelope,
and the message is lost.
-/

namespace TokenTariff

open Json

/-! ### Envelopes that refuse -/

namespace Envelope

variable {α : Type} {r : Reader α} {ms : List (Except Fault String × Doc)} {m : String}

def slots (r : Reader α) : List (Slot (Envelope α)) := [
  ⟨_, "success", .fault, Reader.bool, (·.success), fun b e => { e with success := b },
    fun _ _ => rfl⟩,
  ⟨_, "message", .anywhere, Reader.text, (·.message), fun s e => { e with message := s },
    fun _ _ => rfl⟩,
  ⟨_, "data", .inObject, Reader.optional r, (·.data), fun x e => { e with data := x },
    fun _ _ => rfl⟩]

theorem slotted (r : Reader α) : (shape r).Slotted (slots r) where
  fields := rfl
  nodup := by simp [slots]
  apart := by simp [slots, Slot.Apart]
  ext := by
    rintro ⟨_, _, _⟩ ⟨_, _, _⟩ h
    simp only [slots, List.forall_mem_cons] at h
    obtain ⟨rfl, rfl, rfl, -⟩ := h
    rfl

/-- The members of an envelope that can be read with data of this kind: every key is a string, no
field is given twice, and there are such data, `null` or none. -/
structure Delivers (wanted : Doc → Prop) (ms : List (Except Fault String × Doc)) : Prop where
  keys : ∀ m ∈ ms, ∃ k, m.1 = .ok k
  success : (given "success" ms).length = 1
  message : (given "message" ms).length = 1
  data : given "data" ms = [] ∨ ∃ d, given "data" ms = [d] ∧ (d = .null ∨ wanted d)

/-- What is read of an envelope that refuses. -/
theorem reader_iff (hform : ∀ m ∈ ms, m.2.onSkip = none)
    (hsuccess : (.ok "success", .bool false) ∈ ms) (hmessage : (.ok "message", .text (.ok m)) ∈ ms)
    {e : Envelope α} :
    reader r .text (.object ms .closed) = .ok e ↔
      (∀ m ∈ ms, ∃ k, m.1 = .ok k) ∧
      (given "success" ms = [.bool false] ∧ e.success = false) ∧
      (given "message" ms = [.text (.ok m)] ∧ e.message = m) ∧
      (given "data" ms = [] ∧ e.data = none ∨
        ∃ d, given "data" ms = [d] ∧ Reader.optional r .text d = .ok e.data) := by
  have hreadable : (shape r).Readable ms ↔ ∀ m ∈ ms, ∃ k, m.1 = .ok k :=
    forall₂_congr fun m hm => exists_congr fun k => and_iff_left fun _ => hform m hm
  rw [reader, Shape.reader, (slotted r).readObject_iff, hreadable]
  simp only [slots, List.forall_mem_cons, List.not_mem_nil, false_implies, implies_true, and_true]
  refine and_congr_right fun _ => and_congr ?_ (and_congr ?_ ?_)
  · rw [Slot.takes_iff_of_mem hsuccess]
    exact and_congr_right fun _ => (Except.ok.injEq _ _).to_iff.trans eq_comm
  · rw [Slot.takes_iff_of_mem hmessage]
    exact and_congr_right fun _ => (Except.ok.injEq _ _).to_iff.trans eq_comm
  · rw [Slot.takes_iff]
    simp [shape]

/-- An envelope that refuses is read as it is, if it can be read with its data. -/
theorem exists_reader_iff {wanted : Doc → Prop} (hwanted : ∀ d, wanted d ↔ ∃ x, r .text d = .ok x)
    (hform : ∀ m ∈ ms, m.2.onSkip = none) (hsuccess : (.ok "success", .bool false) ∈ ms)
    (hmessage : (.ok "message", .text (.ok m)) ∈ ms) :
    (∃ e, reader r .text (.object ms .closed) = .ok e ∧ e.success = false ∧ e.message = m) ↔
      Delivers wanted ms := by
  have hdata (ds : List Doc) :
      (∃ x, ds = [] ∧ x = none ∨ ∃ d, ds = [d] ∧ Reader.optional r .text d = .ok x) ↔
        ds = [] ∨ ∃ d, ds = [d] ∧ (d = .null ∨ wanted d) := by
    simp only [hwanted, ← Reader.optional_iff]
    grind
  constructor
  · rintro ⟨e, hread, -⟩
    obtain ⟨hkeys, ⟨hs, -⟩, ⟨hm, -⟩, hd⟩ := (reader_iff hform hsuccess hmessage).1 hread
    exact ⟨hkeys, by rw [hs]; rfl, by rw [hm]; rfl, (hdata _).1 ⟨e.data, hd⟩⟩
  · rintro ⟨hkeys, hs, hm, hd⟩
    obtain ⟨x, hx⟩ := (hdata _).2 hd
    have hone {ds : List Doc} {d : Doc} (hlength : ds.length = 1) (hmem : d ∈ ds) : ds = [d] := by
      obtain ⟨d', rfl⟩ := List.length_eq_one_iff.1 hlength
      rw [List.mem_singleton.1 hmem]
    have hread := (reader_iff (e := ⟨false, m, x⟩) hform hsuccess hmessage).2
      ⟨hkeys, ⟨hone hs (mem_given.2 hsuccess), rfl⟩, ⟨hone hm (mem_given.2 hmessage), rfl⟩, hx⟩
    exact ⟨_, hread, rfl, rfl⟩

end Envelope

/-! ### Answers that refuse -/

namespace Received

variable {α : Type} {r : Reader α} {status : ℕ} {text : String}
  {ms : List (Except Fault String × Doc)} {m : String}

/-- The error that an answer counts as when it is no envelope. -/
def unread (status : ℕ) (f : Fault) : RemoteError :=
  if Web.isSuccess status then .undecodable f else .rejected (Web.statusText status)

theorem open_refusal {wanted : Doc → Prop} (hwanted : ∀ d, wanted d ↔ ∃ x, r .text d = .ok x)
    (hsaid : Says text (.object ms .closed)) (hsuccess : (.ok "success", .bool false) ∈ ms)
    (hmessage : (.ok "message", .text (.ok m)) ∈ ms) (hm : m ≠ "") :
    (Envelope.Delivers wanted ms →
      (⟨status, Utf8.encode text.toList⟩ : Received).open r = .error (.rejected m)) ∧
    (¬Envelope.Delivers wanted ms →
      ∃ f, (⟨status, Utf8.encode text.toList⟩ : Received).open r = .error (unread status f)) := by
  obtain ⟨ts, -, -, -, -, -, hspells⟩ := id hsaid
  have hform := hspells.onSkip_member
  have hiff := Envelope.exists_reader_iff hwanted hform hsuccess hmessage
  rw [Received.open, read_encode, Reader.parse_eq (says_iff.1 hsaid).1, ← hiff]
  constructor
  · rintro ⟨e, hread, hs, rfl⟩
    have hnonempty : e.message.isEmpty = false := by simpa using hm
    rw [hread]
    simp [hs, hnonempty]
  · intro hno
    cases hread : Envelope.reader r .text (.object ms .closed) with
    | ok e =>
      obtain ⟨-, ⟨-, hs⟩, ⟨-, he⟩, -⟩ := (Envelope.reader_iff hform hsuccess hmessage).1 hread
      exact absurd ⟨e, hread, hs, he⟩ hno
    | error f =>
      refine ⟨f, ?_⟩
      dsimp only [unread]
      split <;> rfl

end Received

/-! ### Calls that are refused -/

namespace Access

def data : Access → (α : Type) × Reader α
  | .listSettings => ⟨_, Reader.items Setting.reader⟩
  | .listRecords => ⟨_, Reader.table TierRecord.reader⟩
  | .putSetting _ | .upsertRecord _ | .deleteRecord _ => ⟨_, Reader.anything⟩

/-- The data that an access has use for. After a change these are any data. -/
def Wants : Access → Doc → Prop
  | .listSettings, d => ∃ x, Reader.items Setting.reader .text d = .ok x
  | .listRecords, d => ∃ x, Reader.table TierRecord.reader .text d = .ok x
  | .putSetting _, d | .upsertRecord _, d | .deleteRecord _, d => d.Flawless (depthLimit - 1)

theorem wants_iff (a : Access) (d : Doc) : a.Wants d ↔ ∃ x, a.data.2 .text d = .ok x := by
  cases a with
  | listSettings | listRecords => exact Iff.rfl
  | putSetting | upsertRecord | deleteRecord => exact (d.exists_toValue _).symm

end Access

namespace Client

variable {σ α β : Type} (c : Client) (n : Network σ) {s : σ} {reply : Received} {e : RemoteError}

theorem send_error {r : Reader α} {method : Web.Method} {url : Net.Url} {body : Option Value}
    (hsend : canSend (c.message method url body) = true)
    (hreply : (n.exchange (c.message method url body) s).1 = some reply)
    (h : reply.open r = .error e) : (c.send n r method url body s).1 = .error e := by
  rw [send_eq, if_pos hsend, hreply]
  exact h

/-- A call of one access fails as the answer to it is opened. -/
theorem answer_error {call : Call β} {a : Access} (hcall : call.accesses = [a])
    (hsend : canSend (c.messageOf a) = true)
    (hreply : (n.exchange (c.messageOf a) s).1 = some reply)
    (h : reply.open a.data.2 = .error e) : (c.answer n call s).1 = .error e := by
  have hmap {α β : Type} {outcome : Except RemoteError α × σ} (f : α → β)
      (herror : outcome.1 = .error e) : outcome.1.map f = .error e := by
    rw [herror]
    rfl
  cases call with
  | listSettings =>
    obtain rfl := List.singleton_inj.1 hcall
    exact hmap _ (c.send_error n hsend hreply h)
  | putSettings settings =>
    obtain ⟨x, rfl, rfl⟩ := List.map_eq_singleton_iff.1 hcall
    have hchange : (c.change n .put c.settingsUrl (some x.toValue) s).1 = .error e :=
      hmap _ (c.send_error n hsend hreply h)
    rw [answer, putAll]
    generalize c.change n .put c.settingsUrl (some x.toValue) s = outcome at hchange
    obtain ⟨x, s'⟩ := outcome
    subst hchange
    rfl
  | listRecords =>
    obtain rfl := List.singleton_inj.1 hcall
    exact hmap _ (c.send_error n hsend hreply h)
  | upsertRecord =>
    obtain rfl := List.singleton_inj.1 hcall
    exact hmap _ (c.send_error n hsend hreply h)
  | deleteRecord =>
    obtain rfl := List.singleton_inj.1 hcall
    exact hmap _ (c.send_error n hsend hreply h)

/-- A call of one access that is refused fails. It fails with the message of the refusal if the
answer can be read with the data that the access has use for, and else as if the answer were no
envelope. -/
theorem refused_as_read {call : Call β} {a : Access} (hcall : call.accesses = [a])
    (hsend : canSend (c.messageOf a) = true) {status : ℕ} {text : String}
    (hreply : (n.exchange (c.messageOf a) s).1 = some ⟨status, Utf8.encode text.toList⟩)
    {ms : List (Except Fault String × Doc)} (hsaid : Says text (.object ms .closed))
    (hsuccess : (.ok "success", .bool false) ∈ ms) {m : String}
    (hmessage : (.ok "message", .text (.ok m)) ∈ ms) (hm : m ≠ "") :
    (Envelope.Delivers a.Wants ms → (c.answer n call s).1 = .error (.rejected m)) ∧
    (¬Envelope.Delivers a.Wants ms →
      ∃ f, (c.answer n call s).1 = .error (Received.unread status f)) := by
  obtain ⟨hread, hunread⟩ :=
    Received.open_refusal a.wants_iff hsaid hsuccess hmessage hm
  refine ⟨fun h => c.answer_error n hcall hsend hreply (hread h), fun h => ?_⟩
  obtain ⟨f, hf⟩ := hunread h
  exact ⟨f, c.answer_error n hcall hsend hreply hf⟩

theorem refused_with_data :
    let base : Net.Url := { scheme := "http", path := .segments ["gateway".toList, []] }
    let c : Client := ⟨base, none, none, rfl⟩
    let text := "\x7b\"success\":false,\"message\":\"no\",\"data\":[]\x7d"
    let n : Network Unit := ⟨fun _ s => (some ⟨403, Utf8.encode text.toList⟩, s)⟩
    (c.answer n (.putSettings [⟨"ModelPrice", ""⟩]) ()).1 = .error (.rejected "no") := by
  have hsaid : Says "\x7b\"success\":false,\"message\":\"no\",\"data\":[]\x7d"
      (.object [(.ok "success", .bool false), (.ok "message", .text (.ok "no")),
        (.ok "data", .list [] .closed)] .closed) := says_iff.2 ⟨rfl, rfl⟩
  have hdata : (Access.putSetting ⟨"ModelPrice", ""⟩).Wants (.list [] .closed) :=
    .list (List.forall_mem_nil _)
  intro base c text n
  exact (c.refused_as_read n rfl rfl rfl hsaid (by simp) (by simp) (by decide)).1
    ⟨by simp, by decide, by decide, .inr ⟨_, rfl, .inr hdata⟩⟩

/-- Settings that are asked for are refused with an object for data. The message is lost, under
either kind of status. -/
theorem refusal_lost :
    let base : Net.Url := { scheme := "http", path := .segments ["gateway".toList, []] }
    let c : Client := ⟨base, none, none, rfl⟩
    let text := "\x7b\"success\":false,\"message\":\"no\",\"data\":\x7b\x7d\x7d"
    let n (status : ℕ) : Network Unit := ⟨fun _ s => (some ⟨status, Utf8.encode text.toList⟩, s)⟩
    Says text (.object [(.ok "success", .bool false), (.ok "message", .text (.ok "no")),
      (.ok "data", .object [] .closed)] .closed) ∧
    (c.answer (n 200) .listSettings ()).1 = .error (.undecodable (.wrongType .map "a sequence")) ∧
    (c.answer (n 403) .listSettings ()).1 = .error (.rejected "HTTP 403 Forbidden") := by
  have hsaid : Says "\x7b\"success\":false,\"message\":\"no\",\"data\":\x7b\x7d\x7d"
      (.object [(.ok "success", .bool false), (.ok "message", .text (.ok "no")),
        (.ok "data", .object [] .closed)] .closed) := says_iff.2 ⟨rfl, rfl⟩
  have hread (status : ℕ) : (⟨status, Utf8.encode
      "\x7b\"success\":false,\"message\":\"no\",\"data\":\x7b\x7d\x7d".toList⟩ : Received).read
        (Envelope.reader (Reader.items Setting.reader)) =
          .error (.wrongType .map "a sequence") := by
    rw [Received.read_encode, Reader.parse_eq (says_iff.1 hsaid).1]
    rfl
  intro base c text n
  refine ⟨hsaid, c.answer_error (n 200) (a := .listSettings) rfl rfl rfl ?_,
    c.answer_error (n 403) (a := .listSettings) rfl rfl rfl ?_⟩
  · rw [Received.open, Access.data, hread]
    exact if_pos rfl
  · have hstatus : Web.statusText 403 = "HTTP 403 Forbidden" := rfl
    rw [Received.open, Access.data, hread, ← hstatus]
    exact if_neg Bool.false_ne_true

end Client

end TokenTariff
