import LLMPool.Secrets.AdminRestApi
import LLMPool.Secrets.Survival
import LLMPool.Transactions.Invariants

/-! Where no stored key splits a character at its sixth byte from either end, no request and
no read panics, in any interleaving. -/
namespace LLMPool.Secrets
open Relational Transactions

/-- A text can be cut at its `n`th byte. -/
def Boundary (n : Nat) (text : List Char) : Prop :=
  ∃ first rest, text = first ++ rest ∧ lengthInBytes first = n

/-- A key is short, or can be cut at six bytes from either end. -/
def Sliceable (key : String) : Prop :=
  lengthInBytes key.toList ≤ 12 ∨
    Boundary 6 key.toList ∧ Boundary (lengthInBytes key.toList - 6) key.toList

section Slices

theorem lengthInBytes_cons (c : Char) (text : List Char) :
    lengthInBytes (c :: text) = c.utf8Size + lengthInBytes text := by
  simp only [lengthInBytes, List.map_cons, List.sum_cons]

theorem lengthInBytes_eq_zero {text : List Char} (empty : lengthInBytes text = 0) : text = [] := by
  cases text with
  | nil => rfl
  | cons c text =>
      have positive := c.utf8Size_pos
      rw [lengthInBytes_cons] at empty
      omega

theorem splitBytes_iff {n : Nat} {text first rest : List Char} :
    splitBytes n text = some (first, rest) ↔ text = first ++ rest ∧ lengthInBytes first = n := by
  induction text generalizing n first with
  | nil =>
      cases n with
      | zero =>
          simp only [splitBytes, Option.some.injEq, Prod.mk.injEq]
          constructor
          · rintro ⟨rfl, rfl⟩
            exact ⟨rfl, rfl⟩
          · rintro ⟨joined, _⟩
            obtain ⟨rfl, rfl⟩ := List.nil_eq_append_iff.mp joined
            exact ⟨rfl, rfl⟩
      | succ n =>
          simp only [splitBytes, reduceCtorEq, false_iff]
          rintro ⟨joined, long⟩
          obtain ⟨rfl, rfl⟩ := List.nil_eq_append_iff.mp joined
          cases long
  | cons c text ih =>
      cases n with
      | zero =>
          simp only [splitBytes, Option.some.injEq, Prod.mk.injEq]
          constructor
          · rintro ⟨rfl, rfl⟩
            exact ⟨rfl, rfl⟩
          · rintro ⟨joined, empty⟩
            cases lengthInBytes_eq_zero empty
            exact ⟨rfl, joined⟩
      | succ n =>
          have positive := c.utf8Size_pos
          simp only [splitBytes, Option.ite_none_right_eq_some, Option.map_eq_some_iff, Prod.exists, Prod.mk.injEq]
          constructor
          · rintro ⟨fits, first', rest', split, rfl, rfl⟩
            obtain ⟨rfl, length⟩ := ih.mp split
            refine ⟨rfl, ?_⟩
            rw [lengthInBytes_cons]
            omega
          · rintro ⟨joined, length⟩
            cases first with
            | nil => cases length
            | cons c' first' =>
                obtain ⟨rfl, rfl⟩ := List.cons.inj joined
                rw [lengthInBytes_cons] at length
                exact ⟨by omega, first', rest, ih.mpr ⟨rfl, by omega⟩, rfl, rfl⟩

theorem splitBytes_isSome {n : Nat} {text : List Char} : (splitBytes n text).isSome ↔ Boundary n text := by
  simp only [Option.isSome_iff_exists, Prod.exists, splitBytes_iff, Boundary]

/-- The slices of `ellipse_api_key` do not panic. -/
theorem ellipse_iff {key : String} : (ellipseApiKey key).isSome ↔ Sliceable key := by
  rw [ellipseApiKey, Sliceable]
  split
  · rename_i short
    simp only [short, Option.isSome_some, true_or]
  · rename_i long
    simp only [long, false_or, ← splitBytes_isSome]
    cases splitBytes 6 key.toList <;> cases splitBytes (lengthInBytes key.toList - 6) key.toList <;>
      simp [bind, Option.bind]

end Slices

section Rows
variable {p : Primitives} {encryptionKey : String} {db : Db}

/-- A row whose key does not panic where it is decrypted. -/
def Safe (p : Primitives) (encryptionKey : String) (row : UpstreamRow) : Prop :=
  ∀ text, Opens p encryptionKey row text → Sliceable text

def Unbroken (p : Primitives) (encryptionKey : String) (db : Db) : Prop :=
  ∀ row ∈ db.upstreams, Safe p encryptionKey row

theorem decryptUpstream_panicked {row : UpstreamRow} :
    decryptUpstream p encryptionKey row = .error .panicked ↔
      ∃ text, Opens p encryptionKey row text ∧ ¬Sliceable text := by
  rw [decryptUpstream]
  simp only [Opens]
  cases opens : decryptIfConfigured p encryptionKey row.encryptedApiKey with
  | error e => simp
  | ok text =>
      simp only [Except.ok.injEq, exists_eq_left', ← ellipse_iff]
      cases ellipseApiKey text <;> simp

theorem decryptUpstream_sliceable {row : UpstreamRow} {u : LLMUpstream}
    (decrypts : decryptUpstream p encryptionKey row = .ok u) : Sliceable u.apiKey := by
  rw [decryptUpstream] at decrypts
  split at decrypts
  · cases decrypts
  · split at decrypts
    · cases decrypts
    · rename_i ellipsed made
      cases decrypts
      exact ellipse_iff.mp (Option.isSome_of_mem made)

theorem safe_encrypted (lawful : p.Lawful) {nonce : Nonce} {apiKey : String} (row : UpstreamRow)
    (encrypts : encryptApiKey p encryptionKey nonce apiKey = .ok row.encryptedApiKey)
    (sliceable : Sliceable apiKey) : Safe p encryptionKey row := by
  intro text opens
  cases (decryptIfConfigured_encryptIfConfigured lawful (encryptApiKey_ok encrypts)).symm.trans opens
  exact sliceable

/-- The rows that a statement writes whole are safe. -/
def Sound (p : Primitives) (encryptionKey : String) : Stmt → Prop
  | .insertUpstream new encryptedApiKey => ∀ id, Safe p encryptionKey (new.row id encryptedApiKey)
  | .updateUpstream new => Safe p encryptionKey new
  | _ => True

/-- The rows of upstreams in an answer. -/
def returned : (s : Stmt) → s.Answer → List UpstreamRow
  | .insertUpstream _ _, row => [row]
  | .getUpstream _, answer | .updateUpstream _, answer | .addUpstreamTag _ _, answer
  | .removeUpstreamTag _ _, answer | .getUpstreamByApiBase _, answer => answer.toList
  | .listUpstreams, rows | .findUpstreamsByTag _, rows | .listOfflineUpstreams, rows => rows
  | .findModelsByNameAndCapacity _ _ _, pairs => pairs.map Prod.snd
  | _, _ => []

def Change.Sound (p : Primitives) (encryptionKey : String) : Change → Prop
  | .columns new => Safe p encryptionKey new
  | _ => True

theorem Unbroken.on {change : Change} (unbroken : Unbroken p encryptionKey db)
    (sound : change.Sound p encryptionKey) : ∀ u ∈ db.upstreams, Safe p encryptionKey (change.on u) := by
  intro u member
  cases change with
  | columns new => exact sound
  | _ => exact unbroken u member

theorem Unbroken.change {id : Int} (unbroken : Unbroken p encryptionKey db) (change : Change)
    (sound : change.Sound p encryptionKey) : Unbroken p encryptionKey (apply (.change id change) db) := by
  intro row member
  have changed : row ∈ db.upstreams.modify id change.on (change_keeps change) := member
  obtain ⟨u, inside, rfl⟩ := (Table.mem_modify db.upstreams).mp changed
  rw [Table.at_key]
  split
  · exact unbroken.on sound u inside
  · exact unbroken u inside

theorem Unbroken.updated {id : Int} {answer : Option UpstreamRow} (unbroken : Unbroken p encryptionKey db)
    (change : Change) (sound : change.Sound p encryptionKey)
    (executed : updated db id change = some answer) : ∀ row ∈ answer.toList, Safe p encryptionKey row := by
  intro row member
  rw [exec_updated executed, Option.mem_toList] at member
  obtain ⟨u, found, rfl⟩ := Option.map_eq_some_iff.mp member
  exact unbroken.on sound u (Table.find_iff.mp found).1

/-- A sound statement on safe rows returns and leaves safe rows. -/
theorem Unbroken.executed {s : Stmt} {env : Env} {answer : s.Answer} (unbroken : Unbroken p encryptionKey db)
    (sound : Sound p encryptionKey s) (executed : exec s env db = some answer) :
    Unbroken p encryptionKey (engine.applyAll (writes s answer) db) ∧
      ∀ row ∈ returned s answer, Safe p encryptionKey row := by
  cases s with
  | insertUpstream new encryptedApiKey =>
      have made : answer = new.row env.serial encryptedApiKey := by
        simp only [exec] at executed
        split at executed
        · exact (Option.some.inj executed).symm
        · cases executed
      subst made
      constructor
      · intro row member
        rcases Table.mem_of_insert member with inside | rfl
        · exact unbroken row inside
        · exact sound env.serial
      · intro row member
        cases List.mem_singleton.mp member
        exact sound env.serial
  | getUpstream id =>
      cases executed
      exact ⟨unbroken, fun row member => unbroken row (Table.find_iff.mp (Option.mem_toList.mp member)).1⟩
  | listUpstreams =>
      cases executed
      exact ⟨unbroken, fun row member => unbroken row (Table.mem_arrange.mp member)⟩
  | findUpstreamsByTag tag =>
      cases executed
      exact ⟨unbroken, fun row member => unbroken row (List.mem_filter.mp (Table.mem_arrange.mp member)).1⟩
  | listOfflineUpstreams =>
      cases executed
      exact ⟨unbroken, fun row member => unbroken row (List.mem_filter.mp (Table.mem_arrange.mp member)).1⟩
  | getUpstreamByApiBase apiBase =>
      cases executed
      refine ⟨unbroken, fun row member => unbroken row ?_⟩
      have first := List.mem_of_mem_head? (Option.mem_toList.mp member)
      exact (List.mem_filter.mp (Table.mem_arrange.mp first)).1
  | findModelsByNameAndCapacity modelName provider feature =>
      cases executed
      refine ⟨unbroken, fun row member => ?_⟩
      obtain ⟨pair, inside, rfl⟩ := List.mem_map.mp member
      exact unbroken _ (mem_joined (Table.mem_arrange.mp inside))
  | updateUpstream new =>
      refine ⟨?_, unbroken.updated (.columns new) sound executed⟩
      cases answer with
      | none => exact unbroken
      | some row => exact unbroken.change (.columns new) sound
  | addUpstreamTag id tag =>
      refine ⟨?_, unbroken.updated (.addTag tag) trivial executed⟩
      cases answer with
      | none => exact unbroken
      | some row => exact unbroken.change (.addTag tag) trivial
  | removeUpstreamTag id tag =>
      refine ⟨?_, unbroken.updated (.removeTag tag) trivial executed⟩
      cases answer with
      | none => exact unbroken
      | some row => exact unbroken.change (.removeTag tag) trivial
  | markUpstreamOffline id =>
      exact ⟨unbroken.change (.status "offline") trivial, fun _ never => absurd never List.not_mem_nil⟩
  | markUpstreamOnline id =>
      exact ⟨unbroken.change (.status "online") trivial, fun _ never => absurd never List.not_mem_nil⟩
  | listModelsByUpstream upstreamId => exact ⟨unbroken, fun _ never => absurd never List.not_mem_nil⟩
  | findModelByUpstreamAndModelId upstreamId modelId =>
      exact ⟨unbroken, fun _ never => absurd never List.not_mem_nil⟩
  | insertModel new => exact ⟨unbroken, fun _ never => absurd never List.not_mem_nil⟩

end Rows

/-- What a function ends in that does not panic. -/
def Returned (M : α → Prop) : Except QueryError α → Prop
  | .ok value => M value
  | .error e => e ≠ .panicked

section Functions
variable {p : Primitives} {encryptionKey : String} {D : Discipline engine} {I : Db → Prop}

theorem returned_bind {M : α → Prop} {N : β → Prop} {x : Query α} {f : α → Query β}
    (first : x.run.keeps D I (Returned M)) (rest : ∀ value, M value → (f value).run.keeps D I (Returned N)) :
    (x >>= f).run.keeps D I (Returned N) := by
  rw [ExceptT.run_bind]
  refine keeps_bind first ?_
  rintro (e | value) result
  · exact keeps_pure result
  · exact rest value result

theorem returned_attempt {M : α → Prop} {result : Except QueryError α} (holds : Returned M result) :
    (attempt result).run.keeps D I (Returned M) := keeps_pure holds

theorem returned_fetchOne {M : α → Prop} {answer : Option α} (found : ∀ row ∈ answer.toList, M row) :
    (fetchOne answer).run.keeps D I (Returned M) := by
  cases answer with
  | none => exact keeps_pure nofun
  | some row => exact keeps_pure (found row (List.mem_singleton.mpr rfl))

theorem returned_query {s : Stmt} (sound : Sound p encryptionKey s) :
    (query s).run.keeps D (Unbroken p encryptionKey)
      (Returned (fun answer => ∀ row ∈ returned s answer, Safe p encryptionKey row)) := by
  have asked : (LLMPool.Query.pooled (E := engine) s).run.keeps D (Unbroken p encryptionKey)
      (fun result => ∀ answer, result = .ok answer → ∀ row ∈ returned s answer, Safe p encryptionKey row) := by
    refine keeps_bind (keeps_auto (Q := fun result => ∀ answer, result = .ok answer →
      ∀ row ∈ returned s answer, Safe p encryptionKey row) (fun env db answer unbroken executed => ?_) nofun) ?_
    · obtain ⟨kept, safe⟩ := unbroken.executed sound executed
      refine ⟨kept, ?_⟩
      rintro _ ⟨⟩
      exact safe
    · rintro (reason | answer) safe
      · exact keeps_pure nofun
      · refine keeps_pure ?_
        rintro _ ⟨⟩
        exact safe answer rfl
  refine keeps_bind asked ?_
  rintro (e | answer) safe
  · exact keeps_pure nofun
  · exact keeps_pure (safe answer rfl)

theorem returned_decrypt {row : UpstreamRow} (safe : Safe p encryptionKey row) :
    Returned (fun u => Sliceable u.apiKey) (decryptUpstream p encryptionKey row) := by
  cases decrypts : decryptUpstream p encryptionKey row with
  | ok u => exact decryptUpstream_sliceable decrypts
  | error e =>
      rintro rfl
      obtain ⟨text, opens, broken⟩ := decryptUpstream_panicked.mp decrypts
      exact broken (safe text opens)

theorem returned_mapM {f : α → Except QueryError β} {rows : List α}
    (each : ∀ row ∈ rows, Returned (fun _ => True) (f row)) : Returned (fun _ => True) (rows.mapM f) := by
  induction rows with
  | nil => trivial
  | cons row rows ih =>
      have first := each row List.mem_cons_self
      have rest := ih (fun row' member => each row' (List.mem_cons_of_mem _ member))
      rw [List.mapM_cons]
      cases made : f row with
      | error e =>
          rw [made] at first
          exact first
      | ok value =>
          cases others : rows.mapM f with
          | error e =>
              rw [others] at rest
              exact rest
          | ok values => trivial

/-- A function that reads one upstream. -/
theorem returned_one {s : Stmt} {answer : s.Answer → Option UpstreamRow} (sound : Sound p encryptionKey s)
    (rows : ∀ a, returned s a = (answer a).toList) :
    (do attempt (decryptUpstream p encryptionKey (← fetchOne (answer (← query s)))) : Query LLMUpstream).run.keeps D
      (Unbroken p encryptionKey) (Returned (fun u => Sliceable u.apiKey)) := by
  refine returned_bind (returned_query sound) (fun a safe => ?_)
  refine returned_bind (returned_fetchOne (M := Safe p encryptionKey) (fun row member => ?_)) (fun row safe => ?_)
  · rw [rows a] at safe
    exact safe row member
  · exact returned_attempt (returned_decrypt safe)

/-- A function that reads a list of upstreams. -/
theorem returned_list {s : Stmt} {answer : s.Answer → List UpstreamRow} (sound : Sound p encryptionKey s)
    (rows : ∀ a, returned s a = answer a) :
    (do attempt (decryptAll p encryptionKey (answer (← query s))) : Query (List LLMUpstream)).run.keeps D
      (Unbroken p encryptionKey) (Returned (fun _ => True)) := by
  refine returned_bind (returned_query sound) (fun a safe => returned_attempt (returned_mapM (fun row member => ?_)))
  rw [rows a] at safe
  have decrypted := returned_decrypt (safe row member)
  cases made : decryptUpstream p encryptionKey row with
  | ok u => trivial
  | error e =>
      rw [made] at decrypted
      exact decrypted

theorem returned_getUpstream (upstreamId : Int) :
    (getUpstream p encryptionKey upstreamId).run.keeps D (Unbroken p encryptionKey)
      (Returned (fun u => Sliceable u.apiKey)) :=
  returned_one (s := .getUpstream upstreamId) trivial (fun _ => rfl)

theorem returned_getUpstreamByApiBase (apiBase : String) :
    (getUpstreamByApiBase p encryptionKey apiBase).run.keeps D (Unbroken p encryptionKey)
      (Returned (fun u => Sliceable u.apiKey)) :=
  returned_one (s := .getUpstreamByApiBase apiBase) trivial (fun _ => rfl)

theorem returned_models (modelName provider feature : String) :
    (findModelsByNameAndCapacity p encryptionKey modelName provider feature).run.keeps D
      (Unbroken p encryptionKey) (Returned (fun _ => True)) := by
  refine returned_bind (returned_query (s := .findModelsByNameAndCapacity modelName provider feature) trivial)
    (fun pairs safe => returned_attempt (returned_mapM (fun pair member => ?_)))
  have decrypted := returned_decrypt (safe pair.2 (List.mem_map_of_mem member))
  rw [intoTuple]
  cases made : decryptUpstream p encryptionKey pair.2 with
  | ok u => trivial
  | error e =>
      rw [made] at decrypted
      exact decrypted

theorem returned_encrypt {nonce : Nonce} {apiKey : String} :
    Returned (fun encrypted => encryptApiKey p encryptionKey nonce apiKey = .ok encrypted)
      (encryptApiKey p encryptionKey nonce apiKey) := by
  cases made : encryptApiKey p encryptionKey nonce apiKey with
  | ok encrypted => rfl
  | error e =>
      rintro rfl
      rw [encryptApiKey] at made
      split at made <;> cases made

theorem returned_createUpstream (lawful : p.Lawful) (nonce : Nonce) (new : NewLLMUpstream)
    (sliceable : Sliceable new.apiKey) :
    (createUpstream p encryptionKey nonce new).run.keeps D (Unbroken p encryptionKey)
      (Returned (fun u => Sliceable u.apiKey)) := by
  refine returned_bind (returned_attempt returned_encrypt) (fun encrypted encrypts => ?_)
  have sound : Sound p encryptionKey (.insertUpstream new encrypted) :=
    fun id => safe_encrypted lawful (new.row id encrypted) encrypts sliceable
  refine returned_bind (returned_query sound) (fun row safe => returned_attempt (returned_decrypt ?_))
  exact safe row (List.mem_singleton.mpr rfl)

theorem returned_updateUpstream (lawful : p.Lawful) (nonce : Nonce) (upstreamId : Int) (update : UpdateLLMUpstream)
    (sliceable : ∀ key, update.apiKey = some key → Sliceable key) :
    (updateUpstream p encryptionKey nonce upstreamId update).run.keeps D (Unbroken p encryptionKey)
      (Returned (fun u => Sliceable u.apiKey)) := by
  refine returned_bind (returned_getUpstream upstreamId) (fun current key => ?_)
  refine returned_bind (returned_attempt returned_encrypt) (fun encrypted encrypts => ?_)
  have written : Sliceable (update.apiKey.getD current.apiKey) := by
    cases supplied : update.apiKey with
    | none => exact key
    | some apiKey => exact sliceable apiKey supplied
  have sound : Sound p encryptionKey (.updateUpstream (columns update current encrypted)) :=
    safe_encrypted lawful (columns update current encrypted) encrypts written
  exact returned_one (s := .updateUpstream (columns update current encrypted)) sound (fun _ => rfl)

end Functions

section Handler
variable {p : Primitives} {encryptionKey : String} {D : Discipline engine}

theorem returned_saveUpstream (lawful : p.Lawful) (nonce : Nonce) (name apiKey apiBase : String)
    (sliceable : Sliceable apiKey) :
    (saveUpstream p encryptionKey nonce name apiKey apiBase).run.keeps D (Unbroken p encryptionKey)
      (Returned (fun u => Sliceable u.apiKey)) := by
  refine keeps_bind (returned_getUpstreamByApiBase apiBase) ?_
  rintro (((_ | _) | _ | _) | existing) result
  · exact keeps_pure nofun
  · exact returned_createUpstream lawful nonce _ sliceable
  · exact keeps_pure nofun
  · exact absurd rfl result
  · refine returned_updateUpstream lawful nonce existing.id _ ?_
    rintro _ ⟨⟩
    exact sliceable

theorem returned_saveModel (upstreamId : Int) (id : String) :
    (saveModel upstreamId id).run.keeps D (Unbroken p encryptionKey) (Returned (fun _ => True)) := by
  have found : (findModelByUpstreamAndModelId upstreamId id).run.keeps D (Unbroken p encryptionKey)
      (Returned (fun _ => True)) :=
    returned_bind (returned_query (s := .findModelByUpstreamAndModelId upstreamId id) trivial)
      (fun row _ => returned_fetchOne (fun _ _ => trivial))
  refine keeps_bind found ?_
  rintro (((_ | _) | _ | _) | existing) result
  · exact keeps_pure nofun
  · refine keeps_bind (returned_query (s := .insertModel _) trivial) ?_
    rintro (e | created) result
    · exact keeps_pure result
    · exact keeps_pure trivial
  · exact keeps_pure nofun
  · exact absurd rfl result
  · exact keeps_pure trivial

theorem returned_saveModels (upstreamId : Int) (ids : List String) :
    (saveModels upstreamId ids).run.keeps D (Unbroken p encryptionKey) (Returned (fun _ => True)) := by
  induction ids with
  | nil => exact keeps_pure trivial
  | cons id rest ih => exact returned_bind (returned_saveModel upstreamId id) (fun _ _ => ih)

/-- The registration does not panic. -/
def Saved : Except SaveError α → Prop
  | .error (.query .panicked) => False
  | _ => True

theorem saved_error {e : SaveError} (saved : Saved (.error e : Except SaveError α)) :
    Saved (.error e : Except SaveError β) := by
  rcases e with _ | ((_ | _) | _ | _) <;> exact saved

theorem saved_bind {x : Query α} {f : α → Saving β} (first : x.run.keeps D I (Returned M))
    (rest : ∀ value, M value → (f value).run.keeps D I Saved) : (fromQuery x >>= f).run.keeps D I Saved := by
  rw [ExceptT.run_bind]
  have asked : (fromQuery x).run.keeps D I
      (fun result => Saved result ∧ ∀ value, result = .ok value → M value) := by
    refine keeps_bind first ?_
    rintro (((_ | _) | _ | _) | value) result
    · exact keeps_pure ⟨trivial, nofun⟩
    · exact keeps_pure ⟨trivial, nofun⟩
    · exact keeps_pure ⟨trivial, nofun⟩
    · exact absurd rfl result
    · refine keeps_pure ⟨trivial, ?_⟩
      rintro _ ⟨⟩
      exact result
  refine keeps_bind asked ?_
  rintro (e | value) ⟨saved, result⟩
  · exact keeps_pure (saved_error saved)
  · exact rest value (result value rfl)

theorem saved_registration (lawful : p.Lawful) (nonce : Nonce) (name apiKey apiBase : String)
    (sliceable : Sliceable apiKey) :
    (listAndSaveWithoutDetect p encryptionKey nonce name apiKey apiBase).run.keeps D (Unbroken p encryptionKey)
      Saved := by
  have listed : (listModels apiKey apiBase).run.keeps D (Unbroken p encryptionKey) Saved := by
    refine keeps_bind (keeps_remote (Q := fun _ => True) (fun _ => trivial)) ?_
    rintro (_ | (_ | _)) _ <;> exact keeps_pure trivial
  rw [listAndSaveWithoutDetect, ExceptT.run_bind]
  refine keeps_bind listed ?_
  rintro (e | ids) saved
  · exact keeps_pure (saved_error saved)
  · refine saved_bind (returned_saveUpstream lawful nonce name apiKey apiBase sliceable) (fun u _ => ?_)
    have models : (saveModels u.id (ids.insertionSort (fun a b => a ≤ b))).run.keeps D (Unbroken p encryptionKey)
        (Returned (fun _ => True)) := returned_saveModels u.id _
    refine keeps_bind models ?_
    rintro (((_ | _) | _ | _) | _) result
    · exact keeps_pure trivial
    · exact keeps_pure trivial
    · exact keeps_pure trivial
    · exact absurd rfl result
    · exact keeps_pure trivial

namespace AdminRestApi

theorem answered_complete (lawful : p.Lawful) (nonce : Nonce) (payload : Pricing.AdminRestApi.CreateUpstreamRequest)
    (upstream : LLMUpstream) :
    (completeUpstream p encryptionKey nonce payload upstream).keeps D (Unbroken p encryptionKey)
      (fun result => result.isSome) := by
  rw [completeUpstream]
  split
  · refine keeps_bind (returned_updateUpstream lawful nonce upstream.id _ nofun) ?_
    rintro (((_ | _) | _ | _) | _) result
    · exact keeps_pure rfl
    · exact keeps_pure rfl
    · exact keeps_pure rfl
    · exact absurd rfl result
    · exact keeps_pure rfl
  · exact keeps_pure rfl

/-- A request that supplies a sliceable key is answered. -/
theorem answered_createUpstream (lawful : p.Lawful) (display : SaveError → String) (nonces : Nonce × Nonce)
    (payload : Pricing.AdminRestApi.CreateUpstreamRequest)
    (sliceable : Accepted payload → Sliceable (Auth.trim payload.apiKey)) :
    (createUpstream p encryptionKey display nonces payload).keeps D (Unbroken p encryptionKey)
      (fun response => response.isSome) := by
  rw [createUpstream]
  by_cases name : Auth.trim payload.name = ""
  · rw [if_pos name]
    exact keeps_pure rfl
  by_cases apiKey : Auth.trim payload.apiKey = ""
  · rw [if_neg name, if_pos apiKey]
    exact keeps_pure rfl
  by_cases apiBase : Auth.trim payload.apiBase = ""
  · rw [if_neg name, if_neg apiKey, if_pos apiBase]
    exact keeps_pure rfl
  rw [if_neg name, if_neg apiKey, if_neg apiBase]
  refine keeps_bind (saved_registration lawful nonces.1 _ _ _ (sliceable ⟨name, apiKey, apiBase⟩)) ?_
  rintro ((_ | ((_ | _) | _ | _)) | _) saved
  · exact keeps_pure rfl
  · exact keeps_pure rfl
  · exact keeps_pure rfl
  · exact keeps_pure rfl
  · cases saved
  · refine keeps_bind (returned_getUpstreamByApiBase (Auth.trim payload.apiBase)) ?_
    rintro (((_ | _) | _ | _) | found) result
    · exact keeps_pure rfl
    · exact keeps_pure rfl
    · exact keeps_pure rfl
    · exact absurd rfl result
    · refine keeps_bind (answered_complete lawful nonces.2 payload found) ?_
      rintro (_ | upstream) completed
      · cases completed
      · have models : (listModelsByUpstream upstream.id).run.keeps D (Unbroken p encryptionKey)
            (Returned (fun answer => ∀ row ∈ returned (.listModelsByUpstream upstream.id) answer,
              Safe p encryptionKey row)) := returned_query trivial
        refine keeps_bind models ?_
        rintro (_ | models) _ <;> exact keeps_pure rfl

end AdminRestApi
end Handler

/-- The requests that register an upstream, and the reads. -/
inductive Task where
  | createUpstream (nonces : Nonce × Nonce) (payload : Pricing.AdminRestApi.CreateUpstreamRequest)
  | listUpstreams
  | getUpstream (id : Int)
  | listOfflineUpstreams
  | findUpstreamsByTag (tag : String)
  | findModelsByNameAndCapacity (modelName provider feature : String)

/-- What a task ends in. -/
inductive Outcome where
  | response (answer : Option (Billing.AdminRestApi.Response AdminRestApi.UpstreamWithModelsResponse))
  | upstream (result : Except QueryError LLMUpstream)
  | upstreams (result : Except QueryError (List LLMUpstream))
  | models (result : Except QueryError (List (LLMModel × LLMUpstream)))

def panics : Except QueryError α → Bool
  | .error .panicked => true
  | _ => false

def Outcome.panicked : Outcome → Bool
  | response answer => answer.isNone
  | upstream result => panics result
  | upstreams result => panics result
  | models result => panics result

theorem Returned.calm {M : α → Prop} {result : Except QueryError α} (returned : Returned M result) :
    panics result = false := by
  rcases result with (_ | _ | _) | value
  · rfl
  · rfl
  · exact absurd rfl returned
  · rfl

namespace Task

def run (p : Primitives) (encryptionKey : String) (display : SaveError → String) : Task → Prog engine Outcome
  | createUpstream nonces payload => do
      return .response (← AdminRestApi.createUpstream p encryptionKey display nonces payload)
  | listUpstreams => do return .upstreams (← (Secrets.listUpstreams p encryptionKey).run)
  | getUpstream id => do return .upstream (← (Secrets.getUpstream p encryptionKey id).run)
  | listOfflineUpstreams => do return .upstreams (← (Secrets.listOfflineUpstreams p encryptionKey).run)
  | findUpstreamsByTag tag => do return .upstreams (← (Secrets.findUpstreamsByTag p encryptionKey tag).run)
  | findModelsByNameAndCapacity modelName provider feature => do
      return .models (← (Secrets.findModelsByNameAndCapacity p encryptionKey modelName provider feature).run)

/-- The key that a request supplies is sliceable, where the request is accepted. -/
def Slices : Task → Prop
  | createUpstream _ payload => AdminRestApi.Accepted payload → Sliceable (Auth.trim payload.apiKey)
  | _ => True

theorem keeps_run {p : Primitives} {encryptionKey : String} {D : Discipline engine} (lawful : p.Lawful)
    (display : SaveError → String) {task : Task} (slices : task.Slices) :
    (task.run p encryptionKey display).keeps D (Unbroken p encryptionKey)
      (fun outcome => outcome.panicked = false) := by
  have calm : ∀ {α : Type} {M : α → Prop} {x : Query α} {outcome : Except QueryError α → Outcome},
      x.run.keeps D (Unbroken p encryptionKey) (Returned M) →
      (∀ result, (outcome result).panicked = panics result) →
      (do return outcome (← x.run) : Prog engine Outcome).keeps D (Unbroken p encryptionKey)
        (fun outcome => outcome.panicked = false) :=
    fun reads wraps => keeps_bind reads (fun result returned => keeps_pure ((wraps result).trans returned.calm))
  cases task with
  | createUpstream nonces payload =>
      refine keeps_bind (AdminRestApi.answered_createUpstream lawful display nonces payload slices) ?_
      rintro (_ | response) answered
      · cases answered
      · exact keeps_pure rfl
  | listUpstreams => exact calm (returned_list (s := .listUpstreams) trivial (fun _ => rfl)) (fun _ => rfl)
  | getUpstream id => exact calm (returned_getUpstream id) (fun _ => rfl)
  | listOfflineUpstreams =>
      exact calm (returned_list (s := .listOfflineUpstreams) trivial (fun _ => rfl)) (fun _ => rfl)
  | findUpstreamsByTag tag =>
      exact calm (returned_list (s := .findUpstreamsByTag tag) trivial (fun _ => rfl)) (fun _ => rfl)
  | findModelsByNameAndCapacity modelName provider feature =>
      exact calm (returned_models modelName provider feature) (fun _ => rfl)

end Task

section Runs
variable {ι : Type} [DecidableEq ι] {p : Primitives} {encryptionKey : String} {D : Discipline engine} {db : Db}
  {history : History engine ι} {s : State engine ι}

/-- In every interleaving of registrations and reads that supplies and stores only keys that
can be cut six bytes from either end, nothing panics. -/
theorem no_read_panics (lawful : p.Lawful) (display : SaveError → String) (task : ι → Task)
    (stored : ∀ row ∈ db.upstreams, ∀ text, Opens p encryptionKey row text → Sliceable text)
    (slices : ∀ i nonces payload, task i = .createUpstream nonces payload → AdminRestApi.Accepted payload →
      Sliceable (Auth.trim payload.apiKey))
    (reached : Reaches D (.starting db () (fun i => (task i).run p encryptionKey display >>= fun _ => pure ()))
      history s) :
    ∀ i outcome, s.ReturnedAs (fun i => (task i).run p encryptionKey display) i outcome →
      outcome.panicked = false := by
  have each : ∀ i, ((task i).run p encryptionKey display).wp D (.keeping (Unbroken p encryptionKey))
      (Rely.keeping (Unbroken p encryptionKey)).rel (fun outcome _ _ => outcome.panicked = false) [] db := by
    intro i
    have slices : (task i).Slices := by
      cases here : task i with
      | createUpstream nonces payload => exact slices i nonces payload here
      | _ => trivial
    exact wp_mono (fun _ _ kept => kept) (fun _ _ _ result => result.2)
      ((task i).keeps_run lawful display slices [] db stored)
  have finished := Reaches.returned each (fun _ _ _ _ calm _ => calm) reached
  exact fun i outcome returned => finished.2 i outcome returned.1 returned.2

end Runs

def registration (apiKey : String) : Pricing.AdminRestApi.CreateUpstreamRequest where
  name := "first"
  apiKey := apiKey
  apiBase := "https://a"

/-- An upstream is registered, the upstreams are listed, and the one is read. -/
def registered (apiKey : String) : Fin 3 → Task
  | 0 => .createUpstream (zeroNonce, zeroNonce) (registration apiKey)
  | 1 => .listUpstreams
  | 2 => .getUpstream 1

def registeredRun (apiKey : String) (i : Fin 3) : Prog engine Outcome :=
  (registered apiKey i).run knownAnswer "" (fun _ => "")

def noUpstreams : Db := ⟨.empty, .empty⟩

def inOrder : List (Fin 3 × Env) :=
  (List.finRange 3).zip [⟨1, 0, .ok ["model"]⟩, ⟨1, 0, .ok []⟩, ⟨1, 0, .ok []⟩]

/-- The three tasks end in this order, with or without a panic. -/
def EndsIn (broken : Bool) (values : List (Fin 3 × Outcome)) : Prop :=
  values.map (fun entry => (entry.1, entry.2.panicked)) = (List.finRange 3).map (fun i => (i, broken))

instance (broken : Bool) (values : List (Fin 3 × Outcome)) : Decidable (EndsIn broken values) := by
  unfold EndsIn
  infer_instance

theorem EndsIn.returned {apiKey : String} {broken : Bool} {values : List (Fin 3 × Outcome)} {s : State engine (Fin 3)}
    (ends : EndsIn broken values) (returned : ∀ entry ∈ values, s.ReturnedAs (registeredRun apiKey) entry.1 entry.2)
    (i : Fin 3) : ∃ outcome, s.ReturnedAs (registeredRun apiKey) i outcome ∧ outcome.panicked = broken := by
  have member : (i, broken) ∈ values.map (fun entry => (entry.1, entry.2.panicked)) := by
    rw [show values.map _ = _ from ends]
    exact List.mem_map_of_mem (List.mem_finRange i)
  obtain ⟨⟨j, outcome⟩, inside, same⟩ := List.mem_map.mp member
  obtain ⟨rfl, panicked⟩ := Prod.mk.inj same
  exact ⟨outcome, returned _ inside, panicked⟩

/-- A key of letters that take two bytes each, but for the fifth. -/
theorem no_read_panics_cyrillic : ∃ history s,
    Reaches (.any False) (.starting noUpstreams () (fun i => registeredRun "ключ-ключ" i >>= fun _ => pure ()))
      history s ∧
    ∃ outcome, s.ReturnedAs (registeredRun "ключ-ключ") 1 outcome ∧ outcome.panicked = false := by
  obtain ⟨history, s, values, reached, ends, returned⟩ := State.exists_of_inTurn (.any False)
    (registeredRun "ключ-ключ") noUpstreams () inOrder (fun values _ => EndsIn false values) (by decide)
    (by decide +kernel)
  obtain ⟨outcome, listed, _⟩ := ends.returned returned 1
  refine ⟨history, s, reached, outcome, listed, no_read_panics knownAnswer_lawful (fun _ => "")
    (registered "ключ-ключ") ?_ ?_ reached 1 outcome listed⟩
  · exact fun row never => absurd never List.not_mem_nil
  · intro i nonces payload here _
    fin_cases i <;> cases here
    exact ellipse_iff.mp (by decide +kernel)

/-- The sixth byte of the key is inside its é: the row is stored, and no read gets past it. -/
theorem one_key_breaks_reads :
    AdminRestApi.Accepted (registration "abcdeéabcdefg") ∧ ∃ history s,
      Reaches (.any False)
        (.starting noUpstreams () (fun i => registeredRun "abcdeéabcdefg" i >>= fun _ => pure ())) history s ∧
      (∃ outcome, s.ReturnedAs (registeredRun "abcdeéabcdefg") 1 outcome ∧ outcome.panicked = true) ∧
      ∃ outcome, s.ReturnedAs (registeredRun "abcdeéabcdefg") 2 outcome ∧ outcome.panicked = true := by
  obtain ⟨history, s, values, reached, ends, returned⟩ := State.exists_of_inTurn (.any False)
    (registeredRun "abcdeéabcdefg") noUpstreams () inOrder (fun values _ => EndsIn true values) (by decide)
    (by decide +kernel)
  refine ⟨?_, history, s, reached, ends.returned returned 1, ends.returned returned 2⟩
  exact ⟨by decide, by decide, by decide⟩

end LLMPool.Secrets
