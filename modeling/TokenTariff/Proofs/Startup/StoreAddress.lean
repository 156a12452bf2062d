import Mathlib
import TokenTariff.Proofs.Json.Readers
import TokenTariff.Remote.Client
import TokenTariff.Startup.Variables

/-!
# The address of the store at start-up

The address of the store is looked at twice. At start-up it only has to be an address, while a
client wants one that paths can be added to. So an address whose path is a mere text is accepted
first and refused then. Which ones these are can be told from the scheme and the character behind
its colon.
-/

namespace TokenTariff

namespace Net.Url

open Json

variable {u v : Url} {f : Family} {more : Bool} {cs : List Char}

/-- The address says a hierarchy: by a scheme that always has one, or by a slash behind the
scheme. -/
def SaysHierarchy (s : String) : Prop :=
  ∃ scheme rest, readScheme? (clean s.toList) = some (scheme, rest) ∧
    ((Family.ofScheme (String.ofList scheme)).isKnown = true ∨ rest.head? = some '/')

/-- What is cut off behind a character leaves the one in front, unless that is the character. -/
theorem head?_cutAt {c d : Char} (h : d ≠ c) (cs : List Char) :
    (cutAt c cs).1.head? = some d ↔ cs.head? = some d := by
  cases cs with
  | nil => rfl
  | cons e rest =>
    rw [cutAt]
    split
    · rfl
    · rw [List.takeWhile_cons]
      split
      · rfl
      · rename_i he
        obtain rfl : e = c := by simpa using he
        simp [Ne.symm h]

theorem isFlat_of_readWeb (h : readWeb u more cs = .ok v) : v.isFlat = false := by
  obtain ⟨a, -, h⟩ := exists_of_bind h
  cases h
  rfl

theorem isFlat_of_readFile (h : readFile u cs = .ok v) : v.isFlat = false := by
  unfold readFile at h
  dsimp only at h
  split at h
  · split at h
    · split at h
      · cases h
        rfl
      · obtain ⟨host, -, rfl⟩ := exists_of_map h
        rfl
    · cases h
      rfl
  · cases h
    rfl

/-- Under a scheme that is not known, a path is a list of segments if it begins with a slash. -/
theorem isFlat_of_readOther (h : readOther u more cs = .ok v) :
    v.isFlat = false ↔ cs.head? = some '/' := by
  unfold readOther at h
  split at h
  · obtain ⟨a, -, h⟩ := exists_of_bind h
    cases h
    exact iff_of_true rfl rfl
  · cases h
    exact iff_of_true rfl rfl
  · rename_i hno
    cases h
    refine iff_of_false Bool.true_eq_false.mp fun hhead => ?_
    obtain ⟨rest, rfl⟩ := List.head?_eq_some_iff.1 hhead
    exact hno _ rfl

/-- Of the texts that are addresses these are the ones with a hierarchy. -/
theorem isFlat_eq_false_iff {s : String} (h : parse s = .ok u) :
    u.isFlat = false ↔ SaysHierarchy s := by
  unfold parse at h
  split at h
  · cases h
  · rename_i scheme rest hscheme
    have hsaid : SaysHierarchy s ↔
        (Family.ofScheme (String.ofList scheme)).isKnown = true ∨ rest.head? = some '/' := by
      simp [SaysHierarchy, hscheme]
    have hrest : (cutAt '?' (cutAt '#' rest).1).1.head? = some '/' ↔ rest.head? = some '/' := by
      rw [head?_cutAt (by decide), head?_cutAt (by decide)]
    rw [hsaid]
    dsimp only at h
    split at h
    · rename_i hfamily
      rw [hfamily]
      exact iff_of_true (isFlat_of_readWeb h) (.inl rfl)
    · rename_i hfamily
      rw [hfamily]
      exact iff_of_true (isFlat_of_readFile h) (.inl rfl)
    · rename_i hfamily
      rw [hfamily, isFlat_of_readOther h, hrest]
      simp [Family.isKnown]

end Net.Url

open Net Json

namespace Client

variable {r : RemoteAccess} {u : Url}

theorem ofAccess_of_hierarchy (h : Url.parse r.address = .ok u) (hu : u.isFlat = false) :
    ofAccess r = .ok ⟨u, r.token, r.user, hu⟩ := by
  rw [ofAccess, h]
  exact dif_pos hu

theorem ofAccess_of_flat (h : Url.parse r.address = .ok u) (hu : u.isFlat = true) :
    ofAccess r = .error (.badAddress r.address) := by
  rw [ofAccess, h]
  exact dif_neg fun hno => Bool.noConfusion (hu.symm.trans hno)

/-- A client can add any segments to its address. -/
theorem below?_eq_endpoint (c : Client) (segments : List String) :
    c.base.below? (segments.map String.toList) = some (c.endpoint segments) := by
  have hflat := c.hierarchical
  unfold endpoint Url.below?
  unfold Url.isFlat at hflat
  split
  · rename_i hpath
    rw [hpath] at hflat
    cases hflat
  · rfl

end Client

namespace Startup

/-- What is accepted at start-up as the address of the store is an address. -/
theorem exists_parse_of_ofVariables {vars : Variables} {s : Startup}
    (h : ofVariables vars = .ok s) : ∃ u, Url.parse s.remote.address = .ok u := by
  obtain ⟨stage, -, h⟩ := exists_of_bind h
  obtain ⟨server, -, h⟩ := exists_of_bind h
  obtain ⟨remote, hremote, h⟩ := exists_of_bind h
  obtain ⟨interval, -, h⟩ := exists_of_bind h
  obtain ⟨listener, -, h⟩ := exists_of_bind h
  cases h
  obtain ⟨address, haddress, hremote⟩ := exists_of_bind hremote
  obtain ⟨timeout, -, hremote⟩ := exists_of_bind hremote
  cases hremote
  unfold readAddress at haddress
  dsimp only at haddress
  split at haddress
  · rename_i u hu
    cases haddress
    exact ⟨u, hu⟩
  · cases haddress

/-- If what the service is started with names an address with a hierarchy, there is a client for it
with the same credentials, and the client can add any segments to the address. If it names another
one, it was accepted all the same, and the client refuses that address. -/
theorem client_of_variables {vars : Variables} {s : Startup} (h : ofVariables vars = .ok s) :
    (Url.SaysHierarchy s.remote.address ∧
      ∃ c, Client.ofAccess s.remote = .ok c ∧ Url.parse s.remote.address = .ok c.base ∧
        c.token = s.remote.token ∧ c.user = s.remote.user ∧
        ∀ segments, c.base.below? (segments.map String.toList) = some (c.endpoint segments)) ∨
    (¬Url.SaysHierarchy s.remote.address ∧
      Client.ofAccess s.remote = .error (.badAddress s.remote.address)) := by
  obtain ⟨u, hu⟩ := exists_parse_of_ofVariables h
  rw [← Url.isFlat_eq_false_iff hu]
  cases hflat : u.isFlat with
  | false =>
    exact .inl ⟨rfl, _, Client.ofAccess_of_hierarchy hu hflat, hu, rfl, rfl,
      Client.below?_eq_endpoint _⟩
  | true => exact .inr ⟨nofun, Client.ofAccess_of_flat hu hflat⟩

/-- A scheme of the web without slashes behind it, and blanks around the address. -/
theorem client_of_web_address :
    ∃ s, ofVariables (Table.ofList [("UPSTREAM_BASE_URL", " https:gateway?q ")]) = .ok s ∧
      ∃ c, Client.ofAccess s.remote = .ok c ∧
        c.base.below? (["a/b", "..", ""].map String.toList) =
          some (c.endpoint ["a/b", "..", ""]) := by
  obtain ⟨s, hs⟩ : ∃ s, ofVariables
      (Table.ofList [("UPSTREAM_BASE_URL", " https:gateway?q ")]) = .ok s := ⟨_, rfl⟩
  have haddress : s.remote.address = " https:gateway?q " := by
    cases hs
    rfl
  have hsaid : Url.SaysHierarchy s.remote.address := by
    rw [haddress]
    exact ⟨_, _, rfl, .inl rfl⟩
  rcases client_of_variables hs with ⟨-, c, hc, -, -, -, hbelow⟩ | ⟨hno, -⟩
  · exact ⟨s, hs, c, hc, hbelow _⟩
  · exact absurd hsaid hno

/-- The scheme was forgotten, so that the name of the host is taken for one. -/
theorem no_client_of_missing_scheme :
    ∃ s, ofVariables (Table.ofList [("UPSTREAM_BASE_URL", "localhost:3000")]) = .ok s ∧
      Client.ofAccess s.remote = .error (.badAddress "localhost:3000") := ⟨_, rfl, rfl⟩

end Startup

end TokenTariff
