import Mathlib
import TokenTariff.Proofs.Remote.Grants

/-!
# What a session exchanges

A session with a result leaves a trace of messages with the answers to them. The trace is known from
the session without a network: each call adds the messages of its accesses, answered so that the
call succeeds, and what is read from the answers decides how the session goes on. Every session over
every network leaves such a trace, in whichever order settings come to the store that are put
together.
-/

namespace TokenTariff

open Json

variable {σ : Type}

abbrev Exchange : Type := Sent × Option Received

/-- Settings that are put together are on their way at the same time; this is the order in which
they come to the store. -/
structure Arrival where
  order : List Setting → List Setting
  perm (settings : List Setting) : (order settings).Perm settings

namespace Arrival

def arrange (o : Arrival) : {β : Type} → Call β → Call β
  | _, .putSettings settings => .putSettings (o.order settings)
  | _, call => call

def puts (o : Arrival) (b : FlatBook) : List Access := (o.order b.toSettings).map .putSetting

def asSent : Arrival := ⟨id, .refl⟩

end Arrival

namespace Client

variable (c : Client) (n : Network σ)

/-- The client that puts settings so that they come to the store in this order. -/
def backendBy (o : Arrival) : Backend σ := ⟨fun call => c.answer n (o.arrange call)⟩

theorem backendBy_asSent : c.backendBy n .asSent = c.backend n := by
  have harrange {β : Type} (call : Call β) : Arrival.asSent.arrange call = call := by
    cases call <;> rfl
  simp only [backendBy, backend, harrange]

/-! ### Exchanges of accesses -/

/-- The message of the access was answered by an envelope of success. -/
def Granted (a : Access) (e : Exchange) : Prop :=
  e.1 = c.messageOf a ∧ ∃ reply, e.2 = some reply ∧ reply.Grants

/-- The message of the access was answered, and `x` was read from the answer. Missing data are
`empty`. -/
def Told {α : Type} (a : Access) (r : Reader α) (empty : α) (x : α) (e : Exchange) : Prop :=
  e.1 = c.messageOf a ∧ ∃ reply data, e.2 = some reply ∧ reply.open r = .ok data ∧
    x = data.getD empty

def ToldSettings (settings : List Setting) (e : Exchange) : Prop :=
  c.Told .listSettings (Reader.items Setting.reader) [] settings e

def ToldRecords (records : Table TierRecord) (e : Exchange) : Prop :=
  c.Told .listRecords (Reader.table TierRecord.reader) ∅ records e

/-- What a call has exchanged that was answered with `x`. -/
def Answered : {β : Type} → Call β → List Exchange → β → Prop
  | _, .listSettings, log, x => ∃ e, log = [e] ∧ c.ToldSettings x e
  | _, .listRecords, log, x => ∃ e, log = [e] ∧ c.ToldRecords x e
  | _, call, log, _ => List.Forall₂ c.Granted call.accesses log

/-! ### Exchanges of calls -/

variable {c n} {s s' : Logged σ}

theorem log_of_send {α : Type} {r : Reader α} {method : Web.Method} {url : Net.Url}
    {body : Option Value} {x : Option α}
    (h : c.send n.logging r method url body s = (.ok x, s')) :
    ∃ reply, s'.log = s.log ++ [(c.message method url body, some reply)] ∧
      reply.open r = .ok x := by
  rw [send_eq, Network.exchange_logging] at h
  split_ifs at h
  · cases hreply : (n.exchange (c.message method url body) s.state).1 with
    | none =>
      rw [hreply] at h
      cases h
    | some reply =>
      rw [hreply] at h
      obtain ⟨hopen, rfl⟩ := Prod.mk.inj h
      exact ⟨reply, rfl, hopen⟩
  · cases h

theorem told_of_fetch {α : Type} {r : Reader α} {empty x : α} {a : Access} {url : Net.Url}
    (ha : c.messageOf a = c.message .get url none)
    (h : c.fetch n.logging r empty url s = (.ok x, s')) :
    ∃ e, s'.log = s.log ++ [e] ∧ c.Told a r empty x e := by
  rw [fetch] at h
  rcases hsend : c.send n.logging r .get url none s with ⟨e | data, s''⟩ <;> rw [hsend] at h
  · cases h
  · obtain ⟨hx, rfl⟩ := Prod.mk.inj h
    obtain ⟨reply, hlog, hopen⟩ := log_of_send hsend
    exact ⟨_, hlog, ha.symm, reply, data, rfl, hopen, (Except.ok.inj hx).symm⟩

theorem granted_of_change {a : Access} {method : Web.Method} {url : Net.Url} {body : Option Value}
    {x : Unit} (ha : c.messageOf a = c.message method url body)
    (h : c.change n.logging method url body s = (.ok x, s')) :
    ∃ e, s'.log = s.log ++ [e] ∧ c.Granted a e := by
  rw [change] at h
  rcases hsend : c.send n.logging Reader.anything method url body s with ⟨e | data, s''⟩ <;>
    rw [hsend] at h
  · cases h
  · obtain ⟨-, rfl⟩ := Prod.mk.inj h
    obtain ⟨reply, hlog, hopen⟩ := log_of_send hsend
    exact ⟨_, hlog, ha.symm, reply, rfl, Received.grants_of_open hopen⟩

theorem granted_of_putAll {settings : List Setting} {x : Unit}
    (h : c.putAll n.logging settings s = (.ok x, s')) :
    ∃ new, s'.log = s.log ++ new ∧ List.Forall₂ c.Granted (settings.map .putSetting) new := by
  induction settings generalizing s with
  | nil =>
    obtain ⟨-, rfl⟩ := Prod.mk.inj h
    exact ⟨[], (List.append_nil _).symm, .nil⟩
  | cons setting rest ih =>
    rw [putAll] at h
    rcases hchange : c.change n.logging .put c.settingsUrl (some setting.toValue) s with
      ⟨e | _, s''⟩ <;> rw [hchange] at h
    · cases h
    · obtain ⟨e, hlog, he⟩ := granted_of_change (a := .putSetting setting) rfl hchange
      obtain ⟨new, hlog', hnew⟩ := ih h
      refine ⟨e :: new, ?_, .cons he hnew⟩
      rw [hlog', hlog, List.append_assoc, List.singleton_append]

/-- A call that succeeds has exchanged what its answer tells. -/
theorem answered_of_answer {β : Type} {call : Call β} {x : β}
    (h : c.answer n.logging call s = (.ok x, s')) :
    ∃ new, s'.log = s.log ++ new ∧ c.Answered call new x := by
  cases call with
  | listSettings =>
    obtain ⟨e, hlog, he⟩ := told_of_fetch (a := .listSettings) rfl h
    exact ⟨[e], hlog, e, rfl, he⟩
  | putSettings settings => exact granted_of_putAll h
  | listRecords =>
    obtain ⟨e, hlog, he⟩ := told_of_fetch (a := .listRecords) rfl h
    exact ⟨[e], hlog, e, rfl, he⟩
  | upsertRecord r =>
    obtain ⟨e, hlog, he⟩ := granted_of_change (a := .upsertRecord r) rfl h
    exact ⟨[e], hlog, .cons he .nil⟩
  | deleteRecord model =>
    obtain ⟨e, hlog, he⟩ := granted_of_change (a := .deleteRecord model) rfl h
    exact ⟨[e], hlog, .cons he .nil⟩

end Client

/-! ### Exchanges of sessions -/

namespace Session

variable {ε ε' α β : Type} {c : Client} {o : Arrival}

/-- What the session has exchanged when it ends with the result `x`. -/
def Exchanged (c : Client) (o : Arrival) : Session ε α → List Exchange → α → Prop
  | .done y, log, x => log = [] ∧ y = x
  | .fail _, _, _ => False
  | .call query next, log, x =>
    ∃ y l l', log = l ++ l' ∧ c.Answered (o.arrange query) l y ∧ (next y).Exchanged c o l' x

/-- A session with a result leaves its trace, over every network. -/
theorem exchanged_of_run {n : Network σ} {failed : RemoteError → ε} {p : Session ε α}
    {s s' : Logged σ} {x : α} (h : p.run (c.backendBy n.logging o) failed s = (.ok x, s')) :
    ∃ new, s'.log = s.log ++ new ∧ p.Exchanged c o new x := by
  induction p generalizing s with
  | done y =>
    obtain ⟨hx, rfl⟩ := Prod.mk.inj h
    exact ⟨[], (List.append_nil _).symm, rfl, Except.ok.inj hx⟩
  | fail e => cases h
  | call call next ih =>
    simp only [run, Client.backendBy] at h
    rcases hanswer : c.answer n.logging (o.arrange call) s with ⟨e | y, s''⟩ <;> rw [hanswer] at h
    · cases h
    · obtain ⟨l, hl, hy⟩ := Client.answered_of_answer hanswer
      obtain ⟨l', hl', hx⟩ := ih y h
      exact ⟨l ++ l', by rw [hl', hl, List.append_assoc], y, l, l', rfl, hy, hx⟩

@[simp] theorem exchanged_pure {x y : α} {log : List Exchange} :
    (pure y : Session ε α).Exchanged c o log x ↔ log = [] ∧ y = x := Iff.rfl

theorem exchanged_ask {call : Call α} {x : α} {log : List Exchange} :
    (ask call : Session ε α).Exchanged c o log x ↔ c.Answered (o.arrange call) log x := by
  constructor
  · rintro ⟨y, l, l', rfl, hy, rfl, rfl⟩
    rwa [List.append_nil]
  · exact fun h => ⟨x, log, [], (List.append_nil log).symm, h, rfl, rfl⟩

theorem exchanged_ofExcept {f : ε' → ε} {r : Except ε' α} {x : α} {log : List Exchange} :
    (ofExcept f r).Exchanged c o log x ↔ log = [] ∧ r = .ok x := by
  cases r with
  | ok y => exact and_congr_right fun _ => (Except.ok.injEq y x).symm.to_iff
  | error e => exact iff_of_false id nofun

theorem exchanged_bind {p : Session ε α} {f : α → Session ε β} {y : β} {log : List Exchange} :
    (p >>= f).Exchanged c o log y ↔
      ∃ x l l', log = l ++ l' ∧ p.Exchanged c o l x ∧ (f x).Exchanged c o l' y := by
  change (p.bind f).Exchanged c o log y ↔ _
  induction p generalizing log with
  | done x =>
    constructor
    · exact fun h => ⟨x, [], log, rfl, ⟨rfl, rfl⟩, h⟩
    · rintro ⟨x', l, l', rfl, ⟨rfl, rfl⟩, h⟩
      exact h
  | fail e => exact iff_of_false id (by rintro ⟨x, l, l', -, h, -⟩; exact h)
  | call call next ih =>
    constructor
    · rintro ⟨z, l, l', rfl, hz, h⟩
      obtain ⟨x, l₁, l₂, rfl, hx, hy⟩ := (ih z).1 h
      exact ⟨x, l ++ l₁, l₂, by rw [List.append_assoc], ⟨z, l, l₁, rfl, hz, hx⟩, hy⟩
    · rintro ⟨x, _, l₂, rfl, ⟨z, l, l₁, rfl, hz, hx⟩, hy⟩
      exact ⟨z, l, l₁ ++ l₂, by rw [List.append_assoc], hz, (ih z).2 ⟨x, l₁, l₂, rfl, hx, hy⟩⟩

theorem exchanged_mapError {f : ε → ε'} {p : Session ε α} {x : α} {log : List Exchange} :
    (p.mapError f).Exchanged c o log x ↔ p.Exchanged c o log x := by
  induction p generalizing log with
  | done y => exact Iff.rfl
  | fail e => exact Iff.rfl
  | call call next ih =>
    refine exists_congr fun y => exists_congr fun l => exists_congr fun l' => ?_
    rw [ih y]

end Session

end TokenTariff
