import Mathlib
import TokenTariff.Proofs.Remote.Faulty
import TokenTariff.Remote.Client

/-!
# What a client sends

Each access to a store on the web is one message. A network can note what was exchanged over it and
changes nothing else by that. A call sends the messages of its accesses in order until one fails,
and all of them if it succeeds; so the messages of a session are known from the calls that it makes,
whatever the network answers.
-/

namespace TokenTariff

variable {σ : Type}

/-- A state of a network with what was exchanged over it so far, in order. -/
structure Logged (σ : Type) where
  state : σ
  log : List (Sent × Option Received) := []

def Network.logging (n : Network σ) : Network (Logged σ) where
  exchange m s :=
    let (reply, state) := n.exchange m s.state
    (reply, ⟨state, s.log ++ [(m, reply)]⟩)

theorem Network.exchange_logging (n : Network σ) (m : Sent) (s : Logged σ) :
    n.logging.exchange m s = ((n.exchange m s.state).1,
      ⟨(n.exchange m s.state).2, s.log ++ [(m, (n.exchange m s.state).1)]⟩) := rfl

def Logged.plain {α : Type} (outcome : α × Logged σ) : α × σ := (outcome.1, outcome.2.state)

/-- Of these messages the first ones have been sent, and all if there is a result. -/
def Logged.Sends {α : Type} (s : Logged σ) (ms : List Sent)
    (outcome : Except RemoteError α × Logged σ) : Prop :=
  ∃ new, outcome.2.log = s.log ++ new ∧ new.map (·.1) <+: ms ∧
    ∀ x, outcome.1 = .ok x → new.map (·.1) = ms

namespace Logged.Sends

variable {α β : Type} {s s' : Logged σ} {ms ms' : List Sent}

theorem none {outcome : Except RemoteError α × Logged σ} (hlog : outcome.2.log = s.log)
    {e : RemoteError} (he : outcome.1 = .error e) : s.Sends ms outcome :=
  ⟨[], by rw [hlog, List.append_nil], List.nil_prefix, fun x hx => by rw [he] at hx; cases hx⟩

theorem map {x : Except RemoteError α} (h : s.Sends ms (x, s')) (f : α → β) :
    s.Sends ms (x.map f, s') := by
  obtain ⟨new, hlog, hprefix, hall⟩ := h
  refine ⟨new, hlog, hprefix, fun y hy => ?_⟩
  cases x with
  | error e => cases hy
  | ok x => exact hall x rfl

theorem trans {x : α} {outcome : Except RemoteError β × Logged σ} (h : s.Sends ms (.ok x, s'))
    (h' : s'.Sends ms' outcome) : s.Sends (ms ++ ms') outcome := by
  obtain ⟨new, hlog, -, hall⟩ := h
  obtain ⟨new', hlog', hprefix', hall'⟩ := h'
  have hnew := hall x rfl
  refine ⟨new ++ new', ?_, ?_, fun y hy => ?_⟩
  · rw [hlog', hlog, List.append_assoc]
  · rw [List.map_append, hnew]
    exact (List.prefix_append_right_inj ms).2 hprefix'
  · rw [List.map_append, hnew, hall' y hy]

/-- What comes after a failure is not sent. -/
theorem stop {e e' : RemoteError} (h : s.Sends ms ((.error e : Except RemoteError α), s')) :
    s.Sends (ms ++ ms') ((.error e' : Except RemoteError β), s') := by
  obtain ⟨new, hlog, hprefix, -⟩ := h
  exact ⟨new, hlog, hprefix.trans (List.prefix_append ms ms'), nofun⟩

theorem mem {outcome : Except RemoteError α × Logged σ} (h : s.Sends ms outcome) :
    ∀ e ∈ outcome.2.log, e ∈ s.log ∨ e.1 ∈ ms := by
  obtain ⟨new, hlog, hprefix, -⟩ := h
  intro e he
  rw [hlog] at he
  exact (List.mem_append.1 he).imp_right fun he => hprefix.subset (List.mem_map_of_mem he)

end Logged.Sends

namespace Client

variable (c : Client) (n : Network σ)

def message (method : Web.Method) (url : Net.Url) (body : Option Json.Value) : Sent :=
  { method, url, token := c.token, user := c.user, body }

def messageOf : Access → Sent
  | .listSettings => c.message .get c.settingsUrl none
  | .putSetting s => c.message .put c.settingsUrl (some s.toValue)
  | .listRecords => c.message .get c.recordsUrl none
  | .upsertRecord r => c.message .post c.recordsUrl (some r.toValue)
  | .deleteRecord model => c.message .delete (c.recordUrl model) none

/-- A message that can be sent is exchanged, and the answer to it is opened if one comes. -/
theorem send_eq {α : Type} (r : Json.Reader α) (method : Web.Method) (url : Net.Url)
    (body : Option Json.Value) (s : σ) :
    c.send n r method url body s =
      if canSend (c.message method url body) then
        ((n.exchange (c.message method url body) s).1.elim (.error .transport) (·.open r),
          (n.exchange (c.message method url body) s).2)
      else (.error .transport, s) := by
  have hmessage : ({ method, url, token := c.token, user := c.user, body } : Sent) =
      c.message method url body := rfl
  rw [send, hmessage]
  obtain ⟨_ | reply, s'⟩ := n.exchange (c.message method url body) s <;> rfl

/-! ### A log changes nothing else -/

theorem plain_send {α : Type} (r : Json.Reader α) (method : Web.Method) (url : Net.Url)
    (body : Option Json.Value) (s : Logged σ) :
    Logged.plain (c.send n.logging r method url body s) =
      c.send n r method url body s.state := by
  rw [send_eq, send_eq, Network.exchange_logging]
  split <;> rfl

theorem plain_fetch {α : Type} (r : Json.Reader α) (empty : α) (url : Net.Url) (s : Logged σ) :
    Logged.plain (c.fetch n.logging r empty url s) = c.fetch n r empty url s.state := by
  rw [fetch, fetch, ← plain_send]
  rfl

theorem plain_change (method : Web.Method) (url : Net.Url) (body : Option Json.Value)
    (s : Logged σ) :
    Logged.plain (c.change n.logging method url body s) = c.change n method url body s.state := by
  rw [change, change, ← plain_send]
  rfl

theorem plain_putAll (settings : List Setting) (s : Logged σ) :
    Logged.plain (c.putAll n.logging settings s) = c.putAll n settings s.state := by
  induction settings generalizing s with
  | nil => rfl
  | cons x rest ih =>
    rw [putAll, putAll, ← plain_change]
    generalize c.change n.logging .put c.settingsUrl (some x.toValue) s = outcome
    obtain ⟨e | _, s'⟩ := outcome
    · rfl
    · exact ih s'

theorem plain_answer {β : Type} (call : Call β) (s : Logged σ) :
    Logged.plain (c.answer n.logging call s) = c.answer n call s.state := by
  cases call with
  | listSettings => exact c.plain_fetch n _ _ _ s
  | putSettings settings => exact c.plain_putAll n settings s
  | listRecords => exact c.plain_fetch n _ _ _ s
  | upsertRecord r => exact c.plain_change n _ _ _ s
  | deleteRecord model => exact c.plain_change n _ _ _ s

/-! ### Messages of a call -/

theorem sends_send {α : Type} (r : Json.Reader α) (method : Web.Method) (url : Net.Url)
    (body : Option Json.Value) (s : Logged σ) :
    s.Sends [c.message method url body] (c.send n.logging r method url body s) := by
  rw [send_eq, Network.exchange_logging]
  split
  · cases (n.exchange (c.message method url body) s.state).1 with
    | none => exact ⟨[(c.message method url body, none)], rfl, List.prefix_rfl, nofun⟩
    | some a =>
      exact ⟨[(c.message method url body, some a)], rfl, List.prefix_rfl, fun _ _ => rfl⟩
  · exact .none rfl rfl

theorem sends_fetch {α : Type} (r : Json.Reader α) (empty : α) (url : Net.Url) (s : Logged σ) :
    s.Sends [c.message .get url none] (c.fetch n.logging r empty url s) :=
  (c.sends_send n r .get url none s).map _

theorem sends_change (method : Web.Method) (url : Net.Url) (body : Option Json.Value)
    (s : Logged σ) :
    s.Sends [c.message method url body] (c.change n.logging method url body s) :=
  (c.sends_send n Json.Reader.anything method url body s).map _

theorem sends_putAll (settings : List Setting) (s : Logged σ) :
    s.Sends (settings.map fun x => c.messageOf (.putSetting x))
      (c.putAll n.logging settings s) := by
  induction settings generalizing s with
  | nil => exact ⟨[], (List.append_nil _).symm, List.prefix_rfl, fun _ _ => rfl⟩
  | cons x rest ih =>
    have hchange := c.sends_change n .put c.settingsUrl (some x.toValue) s
    rw [putAll]
    generalize c.change n.logging .put c.settingsUrl (some x.toValue) s = outcome at hchange
    obtain ⟨e | _, s'⟩ := outcome
    · exact hchange.stop
    · exact hchange.trans (ih s')

/-- A call sends the messages of its accesses. -/
theorem sends_answer {β : Type} (call : Call β) (s : Logged σ) :
    s.Sends (call.accesses.map c.messageOf) (c.answer n.logging call s) := by
  cases call with
  | listSettings => exact c.sends_fetch n _ _ _ s
  | putSettings settings =>
    have hputs := c.sends_putAll n settings s
    rwa [Call.accesses, List.map_map]
  | listRecords => exact c.sends_fetch n _ _ _ s
  | upsertRecord r => exact c.sends_change n _ _ _ s
  | deleteRecord model => exact c.sends_change n _ _ _ s

end Client

namespace Session

variable {ε ε' α β : Type} {A : Access → Prop} {a : Access}

/-- All accesses of all calls that the session can make are in `A`, whatever it is answered. -/
def Makes (A : Access → Prop) : Session ε α → Prop
  | .done _ => True
  | .fail _ => True
  | .call c next => (∀ a ∈ c.accesses, A a) ∧ ∀ x, (next x).Makes A

theorem makes_ofExcept (f : ε' → ε) (x : Except ε' α) : (ofExcept f x).Makes A := by
  cases x <;> trivial

theorem makes_ask {c : Call α} (h : ∀ a ∈ c.accesses, A a) : (ask c : Session ε α).Makes A :=
  ⟨h, fun _ => trivial⟩

theorem Makes.bind {p : Session ε α} {f : α → Session ε β} (h : p.Makes A)
    (hf : ∀ x, (f x).Makes A) : (p >>= f).Makes A := by
  change (p.bind f).Makes A
  induction p with
  | done x => exact hf x
  | fail e => trivial
  | call c next ih => exact ⟨h.1, fun x => ih x (h.2 x)⟩

theorem Makes.mapError {p : Session ε α} (h : p.Makes A) (f : ε → ε') : (p.mapError f).Makes A := by
  induction p with
  | done x => trivial
  | fail e => trivial
  | call c next ih => exact ⟨h.1, fun x => ih x (h.2 x)⟩

/-- The session has no result without this access. -/
def Needs (a : Access) : Session ε α → Prop
  | .done _ => False
  | .fail _ => True
  | .call c next => a ∈ c.accesses ∨ ∀ x, (next x).Needs a

theorem needs_ask {c : Call α} (h : a ∈ c.accesses) : (ask c : Session ε α).Needs a := .inl h

theorem Needs.bind {p : Session ε α} (h : p.Needs a) (f : α → Session ε β) :
    (p >>= f).Needs a := by
  change (p.bind f).Needs a
  induction p with
  | done x => exact h.elim
  | fail e => trivial
  | call c next ih => exact h.imp_right fun h x => ih x (h x)

theorem needs_bind {p : Session ε α} {f : α → Session ε β} (h : ∀ x, (f x).Needs a) :
    (p >>= f).Needs a := by
  change (p.bind f).Needs a
  induction p with
  | done x => exact h x
  | fail e => trivial
  | call c next ih => exact .inr ih

variable (c : Client) (n : Network σ) (failed : RemoteError → ε)

/-- If a log changes nothing in the answers to calls, it changes nothing in a session. -/
theorem plain_run {b : Backend σ} {b' : Backend (Logged σ)}
    (hb : ∀ {β : Type} (call : Call β) (s : Logged σ),
      Logged.plain (b'.answer call s) = b.answer call s.state) (p : Session ε α) (s : Logged σ) :
    Logged.plain (p.run b' failed s) = p.run b failed s.state := by
  induction p generalizing s with
  | done x => rfl
  | fail e => rfl
  | call call next ih =>
    have hanswer := hb call s
    rw [Session.run, Session.run, ← hanswer]
    generalize b'.answer call s = outcome
    obtain ⟨error | x, s'⟩ := outcome
    · rfl
    · exact ih x s'

/-- Everything that is sent is sent for an access of a call. -/
theorem Makes.run {p : Session ε α} (h : p.Makes A) (s : Logged σ) :
    ∀ e ∈ (p.run (c.backend n.logging) failed s).2.log,
      e ∈ s.log ∨ ∃ a, A a ∧ e.1 = c.messageOf a := by
  induction p generalizing s with
  | done x => exact fun e he => .inl he
  | fail e => exact fun e he => .inl he
  | call call next ih =>
    have hsent : ∀ e ∈ (c.answer n.logging call s).2.log,
        e ∈ s.log ∨ ∃ a, A a ∧ e.1 = c.messageOf a := by
      intro e he
      refine ((c.sends_answer n call s).mem e he).imp_right fun hmem => ?_
      obtain ⟨a, ha, hae⟩ := List.mem_map.1 hmem
      exact ⟨a, h.1 a ha, hae.symm⟩
    simp only [Session.run, Client.backend]
    generalize c.answer n.logging call s = outcome at hsent
    obtain ⟨error | x, s'⟩ := outcome
    · exact hsent
    · exact fun e he => (ih x (h.2 x) s' e he).elim (hsent e) .inr

theorem mem_log_of_mem {p : Session ε α} {s : Logged σ} {e : Sent × Option Received}
    (he : e ∈ s.log) : e ∈ (p.run (c.backend n.logging) failed s).2.log := by
  induction p generalizing s with
  | done x => exact he
  | fail e => exact he
  | call call next ih =>
    obtain ⟨new, hlog, -⟩ := c.sends_answer n call s
    have hmem : e ∈ (c.answer n.logging call s).2.log := by
      rw [hlog]
      exact List.mem_append_left new he
    simp only [Session.run, Client.backend]
    generalize c.answer n.logging call s = outcome at hmem
    obtain ⟨error | x, s'⟩ := outcome
    · exact hmem
    · exact ih x hmem

/-- A session with a result has sent what it needs. -/
theorem Needs.run {p : Session ε α} (h : p.Needs a) {s : Logged σ} {x : α}
    (hrun : (p.run (c.backend n.logging) failed s).1 = .ok x) :
    ∃ e ∈ (p.run (c.backend n.logging) failed s).2.log, e.1 = c.messageOf a := by
  induction p generalizing s with
  | done x => exact h.elim
  | fail e => cases hrun
  | call call next ih =>
    obtain ⟨new, hlog, -, hall⟩ := c.sends_answer n call s
    simp only [Session.run, Client.backend] at hrun ⊢
    generalize c.answer n.logging call s = outcome at hlog hall hrun ⊢
    obtain ⟨error | y, s'⟩ := outcome
    · cases hrun
    · dsimp only at hrun hlog ⊢
      -- Either this call made the access, and what it sent stays in the log, or a later one does.
      rcases h with hmem | h
      · have hsent : c.messageOf a ∈ new.map (·.1) :=
          hall y rfl ▸ List.mem_map_of_mem hmem
        obtain ⟨e, he, hea⟩ := List.mem_map.1 hsent
        refine ⟨e, mem_log_of_mem c n failed ?_, hea⟩
        rw [hlog]
        exact List.mem_append_right s.log he
      · exact ih y (h y) hrun

end Session

end TokenTariff
