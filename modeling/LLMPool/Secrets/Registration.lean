import LLMPool.Secrets.Panics
import LLMPool.Transactions.Results

/-! Registrations that run concurrently. An upstream and a model are looked up before they
are inserted, and in between another registration can have inserted them. -/
namespace LLMPool.Secrets
open Relational Transactions

def Writable (text : String) : Prop := text.toList.contains (Char.ofNat 0) = false

instance (text : String) : Decidable (Writable text) := inferInstanceAs (Decidable (_ = false))

theorem storable_iff {u : UpstreamRow} : storable u = true ↔ Writable u.name ∧ Writable u.apiBase ∧
    Writable u.encryptedApiKey ∧ Writable u.provider ∧ Writable u.status ∧ Writable u.description ∧
    (∀ tag ∈ u.tags, Writable tag) ∧ ∀ proxy ∈ u.proxies, Writable proxy := by
  simp only [storable, Writable, List.all_append, List.all_cons, List.all_nil, Bool.and_true, Bool.and_eq_true,
    Bool.not_eq_true', List.all_eq_true, and_assoc]

section Rows
variable (p : Primitives) (encryptionKey : String)

/-- A key can be shown, and encrypted to what can be stored. -/
def Keepable (apiKey : String) : Prop :=
  Sliceable apiKey ∧
    ∀ nonce, ∃ encrypted, encryptIfConfigured p encryptionKey nonce apiKey = .ok encrypted ∧ Writable encrypted

def Keyed (row : UpstreamRow) : Prop :=
  ∃ text, Opens p encryptionKey row text ∧ Keepable p encryptionKey text

def OnePerApiBase (db : Db) : Prop :=
  ∀ u ∈ db.upstreams, ∀ v ∈ db.upstreams, u.apiBase = v.apiBase → u = v

structure Consistent (db : Db) : Prop where
  one : OnePerApiBase db
  keyed : ∀ row ∈ db.upstreams, Keyed p encryptionKey row
  stored : ∀ row ∈ db.upstreams, storable row = true

def SameApiBase (row row' : UpstreamRow) : Prop := row'.apiBase = row.apiBase

/-- No upstream moves or goes, no model changes, and the rows stay consistent. -/
structure Registered (db db' : Db) : Prop where
  upstreams : db.upstreams.Persists SameApiBase db'.upstreams
  models : db.models.Persists Eq db'.models
  consistent : Consistent p encryptionKey db → Consistent p encryptionKey db'

theorem Registered.refl (db : Db) : Registered p encryptionKey db db :=
  ⟨.refl (P := SameApiBase) (fun _ => rfl) _, .refl (fun _ => rfl) _, fun consistent => consistent⟩

theorem Registered.trans {db db' db'' : Db} (first : Registered p encryptionKey db db')
    (second : Registered p encryptionKey db' db'') : Registered p encryptionKey db db'' :=
  ⟨first.upstreams.trans (fun one two => Eq.trans two one) second.upstreams,
    first.models.trans (fun one two => one.trans two) second.models,
    fun consistent => second.consistent (first.consistent consistent)⟩

def registering : Rely engine :=
  ⟨Registered p encryptionKey, Registered.refl p encryptionKey, Registered.trans p encryptionKey⟩

end Rows

/-- An upstream is inserted only while none has its address, and a model only while its
upstream has none of its name. -/
def Apart (db : Db) : Op engine → Prop
  | .auto (.insertUpstream new _) => ∀ u ∈ db.upstreams.rows, u.apiBase ≠ new.apiBase
  | .auto (.insertModel new) => db.models.lookup (new.upstreamId, new.fullname) = none
  | _ => True

def apart : Discipline engine := ⟨fun _ => False, False, fun _ op db => Apart db op⟩

section Statements
variable {p : Primitives} {encryptionKey : String} {db : Db}

/-- The row of an upstream is at an address. -/
def At (id : Int) (apiBase : String) (db : Db) : Prop :=
  ∃ row, db.upstreams.find id = some row ∧ row.apiBase = apiBase

theorem At.registered {id : Int} (there : At id apiBase db) (registered : Registered p encryptionKey db db') :
    At id apiBase db' := by
  obtain ⟨row, found, rfl⟩ := there
  obtain ⟨row', found', same⟩ := registered.upstreams id row found
  exact ⟨row', found', same⟩

def Present (upstreamId : Int) (fullname : String) (db : Db) : Prop :=
  ∃ m, db.models.lookup (upstreamId, fullname) = some m

theorem Present.registered (present : Present upstreamId fullname db)
    (registered : Registered p encryptionKey db db') : Present upstreamId fullname db' := by
  obtain ⟨m, found⟩ := present
  obtain ⟨m', found', _⟩ := registered.models.lookup (fun same => same ▸ rfl) found
  exact ⟨m', found'⟩

/-- What a statement of a registration may write. -/
def Intact (p : Primitives) (encryptionKey : String) (db : Db) : Stmt → Prop
  | .insertUpstream new encryptedApiKey => ∀ id, Keyed p encryptionKey (new.row id encryptedApiKey)
  | .updateUpstream new => Keyed p encryptionKey new ∧ At new.id new.apiBase db
  | .markUpstreamOffline _ | .markUpstreamOnline _ | .addUpstreamTag _ _ | .removeUpstreamTag _ _ => False
  | _ => True

theorem registered_insert {row : UpstreamRow} (free : db.upstreams.free row)
    (other : ∀ u ∈ db.upstreams, u.apiBase ≠ row.apiBase) (keyed : Keyed p encryptionKey row)
    (stored : storable row = true) :
    Registered p encryptionKey db { db with upstreams := db.upstreams.insert row } := by
  refine ⟨.insert (P := SameApiBase) (fun _ => rfl) _ _, .refl (fun _ => rfl) _, fun consistent => ⟨?_, ?_, ?_⟩⟩
  · intro u left v right same
    rcases Table.mem_of_insert left with older | rfl <;> rcases Table.mem_of_insert right with older' | rfl
    · exact consistent.one u older v older' same
    · exact absurd same (other u older)
    · exact absurd same.symm (other v older')
    · rfl
  · intro u member
    rcases Table.mem_of_insert member with inside | rfl
    · exact consistent.keyed u inside
    · exact keyed
  · intro u member
    rcases Table.mem_of_insert member with inside | rfl
    · exact consistent.stored u inside
    · exact stored

theorem registered_update {new row : UpstreamRow} (found : db.upstreams.find new.id = some row)
    (same : row.apiBase = new.apiBase) (keyed : Keyed p encryptionKey new)
    (stored : storable ((Change.columns new).on row) = true) :
    Registered p encryptionKey db (apply (.change new.id (.columns new)) db) := by
  have each : ∀ u', u' ∈ (apply (.change new.id (.columns new)) db).upstreams →
      ∃ u ∈ db.upstreams, u'.apiBase = u.apiBase ∧ u'.id = u.id ∧
        (u' = u ∨ u = row ∧ u' = (Change.columns new).on row) := by
    intro u' member
    have changed : u' ∈ db.upstreams.modify new.id (Change.columns new).on (change_keeps _) := member
    obtain ⟨u, inside, rfl⟩ := (Table.mem_modify db.upstreams).mp changed
    refine ⟨u, inside, ?_⟩
    rw [Table.at_key]
    split
    · rename_i here
      have this : u = row := Table.eq_of_key inside (Table.find_iff.mp found).1
        (here.trans (Table.find_iff.mp found).2.symm)
      subst this
      exact ⟨same.symm, rfl, .inr ⟨rfl, rfl⟩⟩
    · exact ⟨rfl, rfl, .inl rfl⟩
  refine ⟨?_, .refl (fun _ => rfl) _, fun consistent => ⟨?_, ?_, ?_⟩⟩
  · intro id u before
    refine ⟨Table.at_key new.id (Change.columns new).on u, ?_, ?_⟩
    · simp only [apply, Table.find_modify, before, Option.map_some]
    rw [SameApiBase, Table.at_key]
    split
    · rename_i here
      have this : u = row := Table.eq_of_key (Table.find_iff.mp before).1 (Table.find_iff.mp found).1
        (here.trans (Table.find_iff.mp found).2.symm)
      exact this ▸ same.symm
    · rfl
  · intro u' left v' right base
    obtain ⟨u, inside, uBase, uKey, _⟩ := each u' left
    obtain ⟨v, inside', vBase, vKey, _⟩ := each v' right
    have originals : u = v := consistent.one u inside v inside' (uBase.symm.trans (base.trans vBase))
    exact Table.eq_of_key left right (uKey.trans (originals ▸ vKey.symm))
  · intro u' member
    obtain ⟨u, inside, _, _, rfl | ⟨rfl, rfl⟩⟩ := each u' member
    · exact consistent.keyed _ inside
    · exact keyed
  · intro u' member
    obtain ⟨u, inside, _, _, rfl | ⟨rfl, rfl⟩⟩ := each u' member
    · exact consistent.stored _ inside
    · exact stored

/-- What a statement of a registration leaves, where it is let through. -/
theorem Registered.executed {s : Stmt} {env : Env} {answer : s.Answer} (admitted : Apart db (.auto s))
    (drawn : possible s env db = true) (executed : exec s env db = some answer)
    (intact : Intact p encryptionKey db s) : Registered p encryptionKey db (engine.applyAll (writes s answer) db) := by
  cases s with
  | insertUpstream new encryptedApiKey =>
      simp only [possible, decide_eq_true_eq] at drawn
      simp only [exec] at executed
      split at executed
      · rename_i stored
        cases executed
        exact registered_insert ⟨drawn.2, drawn.2⟩ admitted (intact env.serial) stored
      · cases executed
  | updateUpstream new =>
      obtain ⟨keyed, row, found, same⟩ := intact
      cases answer with
      | none => exact .refl _ _ _
      | some row' =>
          simp only [exec, updated, found, Option.ite_none_right_eq_some, Option.some.injEq] at executed
          exact registered_update found same keyed executed.1
  | insertModel new =>
      exact ⟨.refl (P := SameApiBase) (fun _ => rfl) _, .insert (fun _ => rfl) _ _, fun consistent =>
        ⟨consistent.one, consistent.keyed, consistent.stored⟩⟩
  | markUpstreamOffline _ => cases intact
  | markUpstreamOnline _ => cases intact
  | addUpstreamTag _ _ => cases intact
  | removeUpstreamTag _ _ => cases intact
  | _ => exact .refl _ _ _

end Statements

/-- What the listings among some calls were answered. -/
def listings : List (Call engine) → List (Except Failure (Except ClientError (List String)))
  | [] => []
  | ⟨.remote (.listModels _ _), reply⟩ :: calls => reply :: listings calls
  | _ :: calls => listings calls

section Calls
variable {p : Primitives} {encryptionKey : String} {db : Db} {calls : List (Call engine)}

/-- What a part of a registration has left behind that lists nothing. -/
structure Later (p : Primitives) (encryptionKey : String) (calls : List (Call engine)) (db : Db)
    (calls' : List (Call engine)) (db' : Db) : Prop where
  registered : Registered p encryptionKey db db'
  listed : listings calls' = listings calls

theorem Later.trans {calls' calls'' : List (Call engine)} {db' db'' : Db}
    (first : Later p encryptionKey calls db calls' db') (second : Later p encryptionKey calls' db' calls'' db'') :
    Later p encryptionKey calls db calls'' db'' :=
  ⟨first.registered.trans _ _ second.registered, second.listed.trans first.listed⟩

/-- A program that lists nothing returns what satisfies `F`. -/
def Part (p : Primitives) (encryptionKey : String) (F : α → Db → Prop) (x : Prog engine α)
    (calls : List (Call engine)) (db : Db) : Prop :=
  x.wp apart (registering p encryptionKey) (Registered p encryptionKey)
    (fun value calls' db' => Later p encryptionKey calls db calls' db' ∧ F value db') calls db

theorem part_pure {F : α → Db → Prop} (result : F value db) :
    Part p encryptionKey F (pure value : Prog engine α) calls db :=
  ⟨⟨.refl _ _ _, rfl⟩, result⟩

theorem part_bind {F : α → Db → Prop} {F' : β → Db → Prop} {x : Prog engine α} {f : α → Prog engine β}
    (first : Part p encryptionKey F x calls db)
    (rest : ∀ value calls' db', Registered p encryptionKey db db' → F value db' →
      Part p encryptionKey F' (f value) calls' db') : Part p encryptionKey F' (x >>= f) calls db := by
  refine wp_bind.mpr (wp_mono (fun _ _ kept => kept) ?_ first)
  rintro value calls' db' ⟨later, result⟩
  refine wp_mono (fun _ _ kept => kept) ?_ (rest value calls' db' later.registered result)
  rintro value' calls'' db'' ⟨later', result'⟩
  exact ⟨later.trans later', result'⟩

theorem part_mono {F F' : α → Db → Prop} {x : Prog engine α} (part : Part p encryptionKey F x calls db)
    (weaker : ∀ value db', Registered p encryptionKey db db' → F value db' → F' value db') :
    Part p encryptionKey F' x calls db :=
  wp_mono (fun _ _ kept => kept) (fun value _ db' ⟨later, result⟩ =>
    ⟨later, weaker value db' later.registered result⟩) part

theorem part_query {s : Stmt} {F : Except QueryError s.Answer → Db → Prop}
    (intact : ∀ db', Registered p encryptionKey db db' → Intact p encryptionKey db' s)
    (answered : ∀ db' env answer, Registered p encryptionKey db db' → Apart db' (.auto s) →
      possible s env db' = true → exec s env db' = some answer → F (.ok answer) (engine.applyAll (writes s answer) db'))
    (refused : ∀ db' env, Registered p encryptionKey db db' → Apart db' (.auto s) → exec s env db' = none →
      F (.error (.sqlx (.database .conflict))) db') : Part p encryptionKey F (query s).run calls db := by
  refine wp_bind.mpr (wp_bind.mpr (wp_autoAdmitted ?_ ?_ (fun _ never => never.elim)))
  · intro db' env answer between admitted drawn executed
    have left := Registered.executed admitted drawn executed (intact db' between.rel)
    exact ⟨fun _ => left, ⟨between.rel.trans _ _ left, rfl⟩,
      answered db' env answer between.rel admitted drawn executed⟩
  · intro db' env between admitted _ executed
    exact ⟨⟨between.rel, rfl⟩, refused db' env between.rel admitted executed⟩

theorem part_run_bind {M : Except QueryError α → Db → Prop} {F : Except QueryError β → Db → Prop} {x : Query α}
    {f : α → Query β} (first : Part p encryptionKey M x.run calls db)
    (rest : ∀ value calls' db', Registered p encryptionKey db db' → M (.ok value) db' →
      Part p encryptionKey F (f value).run calls' db')
    (failed : ∀ e db', Registered p encryptionKey db db' → M (.error e) db' → F (.error e) db') :
    Part p encryptionKey F (x >>= f).run calls db := by
  rw [ExceptT.run_bind]
  refine part_bind first ?_
  rintro (e | value) calls' db' registered middle
  · exact part_pure (failed e db' registered middle)
  · exact rest value calls' db' registered middle

end Calls

/-- The record of a row at an address. -/
structure Loaded (p : Primitives) (encryptionKey : String) (id : Int) (apiBase : String) (u : LLMUpstream) : Prop where
  id : u.id = id
  apiBase : u.apiBase = apiBase
  keepable : Keepable p encryptionKey u.apiKey
  stored : storable u.toUpstreamRow = true

/-- An update whose texts can be stored. -/
def Fits (update : UpdateLLMUpstream) : Prop :=
  ∀ current encrypted, storable current.toUpstreamRow = true → Writable encrypted →
    storable (columns update current encrypted) = true

section Functions
variable {p : Primitives} {encryptionKey : String} {db : Db} {calls : List (Call engine)}

theorem decrypt_loaded {row : UpstreamRow} (keyed : Keyed p encryptionKey row) (stored : storable row = true) :
    ∃ u, decryptUpstream p encryptionKey row = .ok u ∧ Loaded p encryptionKey row.id row.apiBase u := by
  obtain ⟨text, opens, keepable⟩ := keyed
  obtain ⟨ellipsed, made⟩ := Option.isSome_iff_exists.mp (ellipse_iff.mpr keepable.1)
  simp only [decryptUpstream, show decryptIfConfigured p encryptionKey row.encryptedApiKey = .ok text from opens, made]
  exact ⟨_, rfl, rfl, rfl, keepable, stored⟩

theorem part_decrypt {row : UpstreamRow} (keyed : Keyed p encryptionKey row) (stored : storable row = true) :
    Part p encryptionKey (fun result _ => ∃ u, result = .ok u ∧ Loaded p encryptionKey row.id row.apiBase u)
      (attempt (decryptUpstream p encryptionKey row)).run calls db := by
  obtain ⟨u, made, loaded⟩ := decrypt_loaded keyed stored
  rw [made]
  exact part_pure ⟨u, rfl, loaded⟩

theorem part_getUpstream {id : Int} {apiBase : String} (consistent : Consistent p encryptionKey db)
    (there : At id apiBase db) :
    Part p encryptionKey (fun result _ => ∃ u, result = .ok u ∧ Loaded p encryptionKey id apiBase u)
      (getUpstream p encryptionKey id).run calls db := by
  refine part_run_bind (M := fun result db' => ∃ row, result = .ok (some row) ∧ row ∈ db'.upstreams ∧
    row.id = id ∧ row.apiBase = apiBase) (part_query (fun _ _ => trivial) ?_ (fun _ _ _ _ never => nomatch never)) ?_
    (fun _ _ _ ⟨_, never, _⟩ => nomatch never)
  · intro db' env answer registered _ _ executed
    obtain ⟨row, found, same⟩ := there.registered registered
    have answered : db'.upstreams.find id = answer := Option.some.inj executed
    obtain ⟨inside, here⟩ := Table.find_iff.mp found
    exact ⟨row, congrArg Except.ok (answered.symm.trans found), inside, here, same⟩
  · rintro _ calls' db' registered ⟨row, ⟨⟩, inside, rfl, rfl⟩
    have after := registered.consistent consistent
    exact part_decrypt (after.keyed row inside) (after.stored row inside)

/-- The upstream at an address, or none is there. -/
def Located (p : Primitives) (encryptionKey : String) (apiBase : String) (result : Except QueryError LLMUpstream)
    (db : Db) : Prop :=
  (∃ u, result = .ok u ∧ Loaded p encryptionKey u.id apiBase u ∧ At u.id apiBase db) ∨
    result = .error (.sqlx .rowNotFound) ∧ ∀ row ∈ db.upstreams, row.apiBase ≠ apiBase

theorem part_getUpstreamByApiBase (apiBase : String) (consistent : Consistent p encryptionKey db) :
    Part p encryptionKey (Located p encryptionKey apiBase)
      (getUpstreamByApiBase p encryptionKey apiBase).run calls db := by
  refine part_run_bind (M := fun result db' => (∃ row, result = .ok (some row) ∧ row ∈ db'.upstreams ∧
    row.apiBase = apiBase) ∨ result = .ok none ∧ ∀ row ∈ db'.upstreams, row.apiBase ≠ apiBase)
    (part_query (fun _ _ => trivial) ?_ (fun _ _ _ _ never => nomatch never)) ?_ ?_
  · intro db' env answer registered _ _ executed
    have answered :
        (Table.arrange env.pick (db'.upstreams.rows.filter (fun u => u.apiBase = apiBase))).head? = answer :=
      Option.some.inj executed
    cases answer with
    | some row =>
        have first := Table.mem_arrange.mp (List.mem_of_mem_head? answered)
        simp only [List.mem_filter, decide_eq_true_eq] at first
        exact .inl ⟨row, rfl, first.1, first.2⟩
    | none =>
        refine .inr ⟨rfl, fun row inside same => ?_⟩
        have member : row ∈ Table.arrange env.pick (db'.upstreams.rows.filter (fun u => u.apiBase = apiBase)) :=
          Table.mem_arrange.mpr (List.mem_filter.mpr ⟨inside, decide_eq_true same⟩)
        rw [List.head?_eq_none_iff.mp answered] at member
        cases member
  · rintro _ calls' db' registered (⟨row, ⟨⟩, inside, rfl⟩ | ⟨⟨⟩, missing⟩)
    · have after := registered.consistent consistent
      refine part_mono (part_decrypt (after.keyed row inside) (after.stored row inside)) ?_
      rintro _ db'' later ⟨u, rfl, loaded⟩
      have there : At row.id row.apiBase db' := ⟨row, Table.find_of_mem inside, rfl⟩
      rw [← loaded.id] at there loaded
      exact .inl ⟨u, rfl, loaded, there.registered later⟩
    · exact part_pure (.inr ⟨rfl, missing⟩)
  · rintro e db' _ (⟨_, never, _⟩ | ⟨never, _⟩) <;> cases never

theorem encrypts_keepable (nonce : Nonce) {apiKey : String} (keepable : Keepable p encryptionKey apiKey) :
    ∃ encrypted, encryptApiKey p encryptionKey nonce apiKey = .ok encrypted ∧ Writable encrypted := by
  obtain ⟨encrypted, made, writable⟩ := keepable.2 nonce
  exact ⟨encrypted, by simp only [encryptApiKey, made], writable⟩

theorem keyed_encrypted (lawful : p.Lawful) {nonce : Nonce} {apiKey : String} (row : UpstreamRow)
    (encrypts : encryptApiKey p encryptionKey nonce apiKey = .ok row.encryptedApiKey)
    (keepable : Keepable p encryptionKey apiKey) : Keyed p encryptionKey row :=
  ⟨apiKey, decryptIfConfigured_encryptIfConfigured lawful (encryptApiKey_ok encrypts), keepable⟩

theorem part_createUpstream (lawful : p.Lawful) (nonce : Nonce) (new : NewLLMUpstream)
    (keepable : Keepable p encryptionKey new.apiKey)
    (stored : ∀ id encrypted, Writable encrypted → storable (new.row id encrypted) = true) :
    Part p encryptionKey (fun result db' => ∃ u, result = .ok u ∧ At u.id new.apiBase db')
      (createUpstream p encryptionKey nonce new).run calls db := by
  obtain ⟨encrypted, encrypts, writable⟩ := encrypts_keepable nonce keepable
  have keyed : ∀ id, Keyed p encryptionKey (new.row id encrypted) :=
    fun id => keyed_encrypted lawful (new.row id encrypted) encrypts keepable
  rw [createUpstream, encrypts]
  refine part_run_bind (M := fun result db' => ∃ row, result = .ok row ∧ Keyed p encryptionKey row ∧
    storable row = true ∧ row.apiBase = new.apiBase ∧ At row.id new.apiBase db')
    (part_query (fun _ _ => keyed) ?_ ?_) ?_ (fun _ _ _ ⟨_, never, _⟩ => nomatch never)
  · intro db' env row registered _ drawn executed
    simp only [exec, stored env.serial encrypted writable, if_true, Option.some.injEq] at executed
    subst executed
    simp only [possible, decide_eq_true_eq] at drawn
    refine ⟨_, rfl, keyed _, stored _ _ writable, rfl, new.row env.serial encrypted, ?_, rfl⟩
    exact Table.find_insert_self ⟨drawn.2, drawn.2⟩
  · intro db' env _ _ never
    simp only [exec, stored env.serial encrypted writable, if_true, reduceCtorEq] at never
  · rintro _ calls' db' registered ⟨row, ⟨⟩, keyed, stored, _, there⟩
    refine part_mono (part_decrypt keyed stored) ?_
    rintro _ db'' later ⟨u, rfl, loaded⟩
    exact ⟨u, rfl, loaded.id ▸ there.registered later⟩

theorem part_updateUpstream (lawful : p.Lawful) (nonce : Nonce) {id : Int} {apiBase : String}
    (update : UpdateLLMUpstream) (consistent : Consistent p encryptionKey db) (there : At id apiBase db)
    (stays : update.apiBase = none) (keepable : ∀ key, update.apiKey = some key → Keepable p encryptionKey key) :
    Part p encryptionKey (fun result _ => (∃ u, result = .ok u ∧ u.id = id ∧ u.apiBase = apiBase) ∨
        result = .error (.sqlx (.database .conflict)) ∧ ¬Fits update)
      (updateUpstream p encryptionKey nonce id update).run calls db := by
  refine part_run_bind (part_getUpstream consistent there) ?_ (fun _ _ _ ⟨_, never, _⟩ => nomatch never)
  rintro current calls₁ db₁ registered ⟨_, ⟨⟩, loaded⟩
  have key : Keepable p encryptionKey (update.apiKey.getD current.apiKey) := by
    cases supplied : update.apiKey with
    | none => exact loaded.keepable
    | some apiKey => exact keepable apiKey supplied
  obtain ⟨encrypted, encrypts, writable⟩ := encrypts_keepable nonce key
  have keyed : Keyed p encryptionKey (columns update current encrypted) := keyed_encrypted lawful _ encrypts key
  have base : (columns update current encrypted).apiBase = apiBase := by
    simp only [columns, stays, Option.getD_none]
    exact loaded.apiBase
  have still : ∀ db', Registered p encryptionKey db₁ db' →
      At (columns update current encrypted).id (columns update current encrypted).apiBase db' := by
    intro db' later
    rw [base, show (columns update current encrypted).id = id from loaded.id]
    exact there.registered (registered.trans _ _ later)
  rw [encrypts]
  refine part_run_bind (M := fun result db' => (∃ row, result = .ok (some row) ∧ Keyed p encryptionKey row ∧
    storable row = true ∧ row.id = id ∧ row.apiBase = apiBase) ∨
      result = .error (.sqlx (.database .conflict)) ∧ ¬Fits update)
    (part_query (fun db' later => ⟨keyed, still db' later⟩) ?_ ?_) ?_ ?_
  · intro db' env answer later _ _ executed
    obtain ⟨row, found, _⟩ := still db' later
    simp only [exec, updated, found, Option.ite_none_right_eq_some, Option.some.injEq] at executed
    obtain ⟨stored, rfl⟩ := executed
    exact .inl ⟨_, rfl, keyed, stored, (Table.find_iff.mp found).2.trans loaded.id, base⟩
  · intro db' env later _ never
    obtain ⟨row, found, _⟩ := still db' later
    refine .inr ⟨rfl, fun fits => ?_⟩
    have stored : storable ((Change.columns (columns update current encrypted)).on row) = true :=
      fits current encrypted loaded.stored writable
    simp only [exec, updated, found, stored, if_true, reduceCtorEq] at never
  · rintro _ calls₂ db₂ _ (⟨row, ⟨⟩, keyed, stored, rfl, rfl⟩ | ⟨never, _⟩)
    · refine part_mono (part_decrypt keyed stored) ?_
      rintro _ _ _ ⟨u, rfl, loaded⟩
      exact .inl ⟨u, rfl, loaded.id, loaded.apiBase⟩
    · cases never
  · rintro e db' _ (⟨_, never, _⟩ | ⟨made, unfit⟩)
    · cases never
    · cases made
      exact .inr ⟨rfl, unfit⟩

theorem part_saveUpstream (lawful : p.Lawful) (nonce : Nonce) {name apiKey apiBase : String}
    (consistent : Consistent p encryptionKey db) (named : Writable name) (based : Writable apiBase)
    (keepable : Keepable p encryptionKey apiKey) :
    Part p encryptionKey (fun result db' => ∃ u, result = .ok u ∧ At u.id apiBase db')
      (saveUpstream p encryptionKey nonce name apiKey apiBase).run calls db := by
  refine part_bind (part_getUpstreamByApiBase apiBase consistent) ?_
  rintro _ calls₁ db₁ registered (⟨existing, rfl, loaded, there⟩ | ⟨rfl, _⟩)
  · refine part_mono (part_updateUpstream lawful nonce _ (registered.consistent consistent) there rfl ?_) ?_
    · rintro _ ⟨⟩
      exact keepable
    · rintro _ db₂ later (⟨u, rfl, same, _⟩ | ⟨_, unfit⟩)
      · exact ⟨u, rfl, same ▸ there.registered later⟩
      · refine absurd (fun current encrypted stored writable => ?_) unfit
        obtain ⟨_, base, _, others⟩ := storable_iff.mp stored
        exact storable_iff.mpr ⟨named, base, writable, others⟩
  · refine part_createUpstream lawful nonce ⟨name, apiBase, apiKey, "openai", [], [], "online", ""⟩ keepable
      (fun id encrypted writable => ?_)
    exact storable_iff.mpr ⟨named, based, writable, (by decide : Writable "openai"),
      (by decide : Writable "online"), (by decide : Writable ""), nofun, nofun⟩

theorem part_saveModel (upstreamId : Int) (id : String) :
    Part p encryptionKey (fun result db' => Writable id → result = .ok () ∧ Present upstreamId id db')
      (saveModel upstreamId id).run calls db := by
  have found : Part p encryptionKey (fun result db' => (∃ m, result = .ok m ∧ Present upstreamId id db') ∨
      result = .error (.sqlx .rowNotFound)) (findModelByUpstreamAndModelId upstreamId id).run calls db := by
    refine part_run_bind (M := fun result db' => (∃ m, result = .ok (some m) ∧ Present upstreamId id db') ∨
      result = .ok none) (part_query (fun _ _ => trivial) ?_ (fun _ _ _ _ never => nomatch never)) ?_ ?_
    · intro db' env answer _ _ _ executed
      have answered : db'.models.lookup (upstreamId, id) = answer := Option.some.inj executed
      cases answer with
      | some m => exact .inl ⟨m, rfl, m, answered⟩
      | none => exact .inr rfl
    · rintro _ calls' db' _ (⟨m, ⟨⟩, present⟩ | ⟨⟨⟩⟩)
      · exact part_pure (.inl ⟨m, rfl, present⟩)
      · exact part_pure (.inr rfl)
    · rintro e db' _ (⟨_, never, _⟩ | never) <;> cases never
  refine part_bind found ?_
  rintro _ calls' db' _ (⟨m, rfl, present⟩ | rfl)
  · exact part_pure (fun _ => ⟨rfl, present⟩)
  · refine part_bind (part_query (F := fun result db' => Writable id → ∃ m, result = .ok m ∧ Present upstreamId id db')
      (fun _ _ => trivial) ?_ ?_) ?_
    · intro db₂ env m _ admitted drawn executed writable
      simp only [possible, decide_eq_true_eq] at drawn
      simp only [exec, Option.ite_none_right_eq_some, Option.some.injEq] at executed
      obtain ⟨_, rfl⟩ := executed
      exact ⟨_, rfl, _, Table.lookup_insert_self ⟨drawn.2, admitted⟩⟩
    · intro db₂ env _ admitted never writable
      have absent : db₂.models.lookup (upstreamId, id) = none := admitted
      simp only [Writable] at writable
      simp only [exec, absent, writable, Option.isNone_none, Bool.not_false, and_self, if_true, reduceCtorEq] at never
    · rintro result calls'' db₂ _ created
      refine part_pure (fun writable => ?_)
      obtain ⟨m, rfl, present⟩ := created writable
      exact ⟨rfl, present⟩

theorem part_saveModels (upstreamId : Int) (ids : List String) :
    Part p encryptionKey (fun result db' => (∀ id ∈ ids, Writable id) →
      result = .ok () ∧ ∀ id ∈ ids, Present upstreamId id db') (saveModels upstreamId ids).run calls db := by
  induction ids generalizing calls db with
  | nil => exact part_pure (fun _ => ⟨rfl, nofun⟩)
  | cons id rest ih =>
      refine part_run_bind (part_saveModel upstreamId id) ?_ ?_
      · intro _ calls' db' _ saved
        refine part_mono ih (fun result db'' later others writable => ?_)
        obtain ⟨_, present⟩ := saved (writable id List.mem_cons_self)
        obtain ⟨ended, each⟩ := others (fun other member => writable other (List.mem_cons_of_mem _ member))
        refine ⟨ended, fun other member => ?_⟩
        rcases List.mem_cons.mp member with rfl | member
        · exact present.registered later
        · exact each other member
      · intro e db' _ saved writable
        cases (saved (writable id List.mem_cons_self)).1

theorem part_listModelsByUpstream (upstreamId : Int) :
    Part p encryptionKey (fun result db' => ∃ models, result = .ok models ∧
        ∀ m ∈ db'.models, m.upstreamId = upstreamId → m ∈ models)
      (listModelsByUpstream upstreamId).run calls db := by
  refine part_query (fun _ _ => trivial) ?_ (fun _ _ _ _ never => nomatch never)
  intro db' env models _ _ _ executed
  refine ⟨models, rfl, fun m inside same => ?_⟩
  rw [← Option.some.inj executed]
  exact Table.mem_arrange.mpr (List.mem_filter.mpr ⟨inside, decide_eq_true same⟩)

theorem part_fromQuery {F : Except QueryError α → Db → Prop} {x : Query α}
    (part : Part p encryptionKey F x.run calls db) :
    Part p encryptionKey (fun result db' => (∃ value, result = .ok value ∧ F (.ok value) db') ∨
      ∃ e, result = .error (.query e) ∧ F (.error e) db') (fromQuery x).run calls db := by
  refine part_bind part ?_
  rintro (e | value) calls' db' _ result
  · exact part_pure (.inr ⟨e, rfl, result⟩)
  · exact part_pure (.inl ⟨value, rfl, result⟩)

/-- What is saved of a listing. -/
theorem part_save (lawful : p.Lawful) (nonce : Nonce) {name apiKey apiBase : String} (ids : List String)
    (consistent : Consistent p encryptionKey db) (named : Writable name) (based : Writable apiBase)
    (keepable : Keepable p encryptionKey apiKey) :
    Part p encryptionKey (fun result db' => (∀ id ∈ ids, Writable id) →
        result = .ok () ∧ ∃ upstreamId, At upstreamId apiBase db' ∧ ∀ id ∈ ids, Present upstreamId id db')
      (do
        let upstream ← fromQuery (saveUpstream p encryptionKey nonce name apiKey apiBase)
        fromQuery (saveModels upstream.id (ids.insertionSort (fun a b => a ≤ b))) : Saving Unit).run calls db := by
  rw [ExceptT.run_bind]
  refine part_bind (part_fromQuery (part_saveUpstream lawful nonce consistent named based keepable)) ?_
  rintro _ calls₁ db₁ _ (⟨u, rfl, _, ⟨⟩, there⟩ | ⟨_, _, _, never, _⟩)
  · refine part_mono (part_fromQuery (part_saveModels u.id _)) (fun result db₂ later saved writable => ?_)
    have sorted : ∀ id, id ∈ ids.insertionSort (fun a b => a ≤ b) ↔ id ∈ ids :=
      fun id => (List.perm_insertionSort _ ids).mem_iff
    have writable' : ∀ id ∈ ids.insertionSort (fun a b => a ≤ b), Writable id :=
      fun id member => writable id ((sorted id).mp member)
    rcases saved with ⟨_, rfl, saved⟩ | ⟨e, _, failed⟩
    · refine ⟨rfl, u.id, there.registered later, fun id member => ?_⟩
      exact (saved writable').2 id ((sorted id).mpr member)
    · cases (failed writable').1
  · cases never

namespace AdminRestApi
open Billing.AdminRestApi (databaseError)

theorem part_completeUpstream (lawful : p.Lawful) (nonce : Nonce)
    (payload : Pricing.AdminRestApi.CreateUpstreamRequest) {upstream : LLMUpstream} {apiBase : String}
    (consistent : Consistent p encryptionKey db) (loaded : Loaded p encryptionKey upstream.id apiBase upstream)
    (there : At upstream.id apiBase db) :
    Part p encryptionKey (fun result _ => ∃ u, result = some u ∧ u.id = upstream.id ∧ u.apiBase = apiBase)
      (completeUpstream p encryptionKey nonce payload upstream) calls db := by
  rw [completeUpstream]
  split
  · refine part_bind (part_updateUpstream lawful nonce _ consistent there rfl
      (fun _ supplied => absurd supplied (Option.some_ne_none _).symm)) ?_
    rintro _ calls' db' _ (⟨u, rfl, same, base⟩ | ⟨rfl, _⟩)
    · exact part_pure ⟨u, rfl, same, base⟩
    · exact part_pure ⟨upstream, rfl, rfl, loaded.apiBase⟩
  · exact part_pure ⟨upstream, rfl, rfl, loaded.apiBase⟩

/-- A request whose texts can be stored, and whose key can be kept. -/
structure Registrable (p : Primitives) (encryptionKey : String)
    (payload : Pricing.AdminRestApi.CreateUpstreamRequest) : Prop where
  name : Writable (Auth.trim payload.name)
  apiBase : Writable (Auth.trim payload.apiBase)
  apiKey : Keepable p encryptionKey (Auth.trim payload.apiKey)

/-- The answer is a success that shows every model of a listing, and the models are stored. -/
def Shows (apiBase : String) (ids : List String)
    (answer : Option (Billing.AdminRestApi.Response UpstreamWithModelsResponse)) (db : Db) : Prop :=
  ∃ upstream models, answer = some (.success .created ⟨upstream, models⟩) ∧ upstream.apiBase = apiBase ∧
    ∀ id ∈ ids, ∃ m ∈ models, m.upstreamId = upstream.id ∧ m.fullname = id ∧ m ∈ db.models

theorem Shows.registered {ids : List String} {db' : Db}
    {answer : Option (Billing.AdminRestApi.Response UpstreamWithModelsResponse)}
    (shows : Shows apiBase ids answer db) (registered : Registered p encryptionKey db db') :
    Shows apiBase ids answer db' := by
  obtain ⟨upstream, models, answered, base, each⟩ := shows
  refine ⟨upstream, models, answered, base, fun id member => ?_⟩
  obtain ⟨m, listed, same, name, stored⟩ := each id member
  obtain ⟨m', found, rfl⟩ := registered.models (key m) m (Table.find_of_mem stored)
  exact ⟨m, listed, same, name, (Table.find_iff.mp found).1⟩

/-- After the models of a listing are saved, the request is answered with all of them. -/
theorem part_answer (lawful : p.Lawful) (nonce : Nonce) (payload : Pricing.AdminRestApi.CreateUpstreamRequest)
    {ids : List String} (consistent : Consistent p encryptionKey db)
    (saved : (∀ id ∈ ids, Writable id) → ∃ upstreamId, At upstreamId (Auth.trim payload.apiBase) db ∧
      ∀ id ∈ ids, Present upstreamId id db) :
    Part p encryptionKey
      (fun answer db' => (∀ id ∈ ids, Writable id) → Shows (Auth.trim payload.apiBase) ids answer db')
      (do
        match ← (getUpstreamByApiBase p encryptionKey (Auth.trim payload.apiBase)).run with
        | .error .panicked => return none
        | .error _ => return some (databaseError "Upstream created but failed to retrieve it")
        | .ok saved =>
            match ← completeUpstream p encryptionKey nonce payload saved with
            | none => return none
            | some upstream =>
                match ← (listModelsByUpstream upstream.id).run with
                | .error _ => return some (databaseError "Upstream created but failed to retrieve models")
                | .ok models => return some (.success .created ⟨upstream, models⟩) :
        Prog engine (Option (Billing.AdminRestApi.Response UpstreamWithModelsResponse))) calls db := by
  refine part_bind (part_getUpstreamByApiBase _ consistent) ?_
  rintro _ calls₁ db₁ registered (⟨found, rfl, loaded, there⟩ | ⟨rfl, missing⟩)
  · refine part_bind (part_completeUpstream lawful nonce payload (registered.consistent consistent) loaded there) ?_
    rintro _ calls₂ db₂ registered' ⟨upstream, rfl, same, base⟩
    refine part_bind (part_listModelsByUpstream upstream.id) ?_
    rintro _ calls₃ db₃ registered'' ⟨models, rfl, all⟩
    refine part_pure (fun writable => ⟨upstream, models, rfl, base, fun id member => ?_⟩)
    obtain ⟨upstreamId, there', present⟩ := saved writable
    have later := (registered.trans _ _ registered').trans _ _ registered''
    obtain ⟨row, stored, rowBase⟩ := there'.registered later
    obtain ⟨row', stored', rowBase'⟩ := (there.registered registered').registered registered''
    -- one row is at the address, so the models are saved with the upstream that is found
    have one : row = row' := (later.consistent consistent).one row (Table.find_iff.mp stored).1 row'
      (Table.find_iff.mp stored').1 (rowBase.trans rowBase'.symm)
    have owner : upstreamId = upstream.id := by
      rw [same, ← (Table.find_iff.mp stored).2, ← (Table.find_iff.mp stored').2, one]
    obtain ⟨m, found'⟩ := (present id member).registered later
    obtain ⟨inside, indexed⟩ := Table.lookup_iff.mp found'
    obtain ⟨owned, named⟩ := Prod.mk.inj indexed
    exact ⟨m, all m inside (owned.trans owner), owned.trans owner, named, inside⟩
  · refine part_pure (fun writable => ?_)
    obtain ⟨_, there, _⟩ := saved writable
    obtain ⟨row, stored, base⟩ := there.registered registered
    exact absurd base (missing row (Table.find_iff.mp stored).1)

theorem wp_listModels (apiKey apiBase : String) :
    (listModels apiKey apiBase).run.wp apart (registering p encryptionKey) (Registered p encryptionKey)
      (fun result calls db' => Registered p encryptionKey db db' ∧
        ∀ ids, listings calls = [.ok (.ok ids)] ↔ result = .ok ids) [] db := by
  refine wp_bind.mpr (wp_remote ?_ (fun _ never => never.elim))
  intro db' env world between _
  cases listed : env.listed with
  | error e =>
      simp only [listed]
      exact ⟨between.rel, fun ids => ⟨nofun, nofun⟩⟩
  | ok ids =>
      simp only [listed]
      refine ⟨between.rel, fun ids' => ?_⟩
      constructor <;> rintro ⟨⟩ <;> rfl

/-- A request that is registrable is answered with every model of its listing. -/
theorem wp_createUpstream (lawful : p.Lawful) (display : SaveError → String) (nonces : Nonce × Nonce)
    (payload : Pricing.AdminRestApi.CreateUpstreamRequest) (consistent : Consistent p encryptionKey db)
    (registrable : Accepted payload → Registrable p encryptionKey payload) :
    (createUpstream p encryptionKey display nonces payload).wp apart (registering p encryptionKey)
      (Registered p encryptionKey)
      (fun answer calls db' => ∀ ids, listings calls = [.ok (.ok ids)] → (∀ id ∈ ids, Writable id) →
        Shows (Auth.trim payload.apiBase) ids answer db') [] db := by
  rw [createUpstream]
  by_cases name : Auth.trim payload.name = ""
  · rw [if_pos name]
    intro ids never
    cases never
  by_cases apiKey : Auth.trim payload.apiKey = ""
  · rw [if_neg name, if_pos apiKey]
    intro ids never
    cases never
  by_cases apiBase : Auth.trim payload.apiBase = ""
  · rw [if_neg name, if_neg apiKey, if_pos apiBase]
    intro ids never
    cases never
  rw [if_neg name, if_neg apiKey, if_neg apiBase]
  have fits := registrable ⟨name, apiKey, apiBase⟩
  refine wp_bind.mpr ?_
  rw [listAndSaveWithoutDetect, ExceptT.run_bind]
  refine wp_bind.mpr (wp_mono (fun _ _ kept => kept) ?_ (wp_listModels _ _))
  rintro (e | ids) calls₁ db₁ ⟨registered, listed⟩
  · cases e with
    | client e =>
        intro ids answered
        cases (listed ids).mp answered
    | query e =>
        cases e <;> intro ids answered <;> cases (listed ids).mp answered
  · have after := registered.consistent consistent
    refine wp_mono (fun _ _ kept => kept) ?_ (part_save lawful nonces.1 ids after fits.name fits.apiBase fits.apiKey)
    rintro result calls₂ db₂ ⟨later, saved⟩
    have same : ∀ ids', listings calls₂ = [.ok (.ok ids')] → ids' = ids := by
      intro ids' answered
      exact (Except.ok.inj ((listed ids').mp (later.listed.symm.trans answered))).symm
    rcases result with e | ⟨⟩
    · have failed : ∀ ids' : List String, listings calls₂ = [.ok (.ok ids')] → ¬∀ id ∈ ids', Writable id := by
        intro ids' answered writable
        cases (saved (same ids' answered ▸ writable)).1
      rcases e with e | ((_ | _) | _ | _) <;> exact fun ids' answered writable => absurd writable (failed ids' answered)
    · refine wp_mono (fun _ _ kept => kept) ?_ (part_answer lawful nonces.2 payload
        (later.registered.consistent after) (fun writable => (saved writable).2))
      rintro answer calls₃ db₃ ⟨later', shows⟩ ids' answered writable
      cases same ids' (later'.listed.symm.trans answered)
      exact shows writable

end AdminRestApi
end Functions

section Runs
variable {ι : Type} [DecidableEq ι] {p : Primitives} {encryptionKey : String} {db : Db} {history : History engine ι}
  {s : State engine ι}

theorem exists_env (s : Stmt) (db : Db) : ∃ env, possible s env db = true := by
  obtain ⟨upstream, positive, unused⟩ := Table.exists_serial db.upstreams
  obtain ⟨model, positive', unused'⟩ := Table.exists_serial db.models
  cases s with
  | insertUpstream new encryptedApiKey => exact ⟨⟨upstream, 0, .ok []⟩, by simp [possible, positive, unused]⟩
  | insertModel new => exact ⟨⟨model, 0, .ok []⟩, by simp [possible, positive', unused']⟩
  | _ => exact ⟨⟨1, 0, .ok []⟩, rfl⟩

/-- In every interleaving in which nothing is inserted that another has inserted since it was
looked up, registering is an idempotent upsert. -/
theorem registrations_upsert (lawful : p.Lawful) (display : SaveError → String)
    (request : ι → (Nonce × Nonce) × Pricing.AdminRestApi.CreateUpstreamRequest)
    (consistent : Consistent p encryptionKey db)
    (registrable : ∀ i, AdminRestApi.Accepted (request i).2 →
      AdminRestApi.Registrable p encryptionKey (request i).2)
    (reached : Reaches apart (.starting db () (fun i =>
      AdminRestApi.createUpstream p encryptionKey display (request i).1 (request i).2 >>= fun _ => pure ()))
      history s) :
    OnePerApiBase s.db ∧
    (∀ m ∈ s.db.models, ∀ m' ∈ s.db.models, m.upstreamId = m'.upstreamId → m.fullname = m'.fullname → m = m') ∧
    (∀ m ∈ db.models, m ∈ s.db.models) ∧
    (∀ i, (s.procs i).Returned ∨ ∃ writes s', Step (.any False) s i writes s') ∧
    ∀ i answer ids,
      s.ReturnedAs (fun i => AdminRestApi.createUpstream p encryptionKey display (request i).1 (request i).2) i answer →
      listings (s.procs i).calls = [.ok (.ok ids)] → (∀ id ∈ ids, Writable id) →
        AdminRestApi.Shows (Auth.trim (request i).2.apiBase) ids answer s.db := by
  obtain ⟨registered, answered⟩ := Reaches.answered (R := registering p encryptionKey)
    (fun i => AdminRestApi.wp_createUpstream lawful display (request i).1 (request i).2 consistent (registrable i))
    (fun i answer calls db db' shows registered ids listed writable =>
      (shows ids listed writable).registered (registered : Registered p encryptionKey db db')) reached
  refine ⟨(registered.consistent consistent).one, fun m inside m' inside' upstream name => ?_, fun m inside => ?_,
    fun i => State.steps exists_env (⟨1, 0, .ok []⟩ : Env) s i,
    fun i answer ids returned => answered i answer returned ids⟩
  · exact Table.eq_of_index inside inside' (Prod.ext upstream name)
  · obtain ⟨m', found, rfl⟩ := registered.models (key m) m (Table.find_of_mem inside)
    exact (Table.find_iff.mp found).1

end Runs

def bothRegister (_ : Fin 2) :
    Prog engine (Option (Billing.AdminRestApi.Response AdminRestApi.UpstreamWithModelsResponse)) :=
  AdminRestApi.createUpstream knownAnswer "" (fun _ => "") (zeroNonce, zeroNonce) (registration "ключ-ключ")

def lists (serial : Int) (ids : List String) : Env := ⟨serial, 0, .ok ids⟩

def twoAtOneAddress : State engine (Fin 2) :=
  .starting noUpstreams () (fun i => bothRegister i >>= fun _ => pure ())

/-- Both look for the upstream before either inserts it. -/
theorem one_address_has_two_rows : ∃ history s, Reaches (.any False) twoAtOneAddress history s ∧
    s.db.upstreams.rows.map (fun u => (u.id, u.apiBase)) = [(1, "https://a"), (2, "https://a")] :=
  State.exists_of_play (.any False) twoAtOneAddress
    [(0, .run (lists 1 [])), (0, .run (lists 1 [])), (1, .run (lists 2 [])), (1, .run (lists 2 [])),
      (0, .run (lists 1 [])), (1, .run (lists 2 []))]
    (fun s => s.db.upstreams.rows.map (fun u => (u.id, u.apiBase)) = [(1, "https://a"), (2, "https://a")])
    (by decide +kernel)

instance (db : Db) (op : Op engine) : Decidable (Apart db op) := by
  rcases op with _ | _ | _ | s | _
  case auto =>
    cases s
    case insertUpstream => exact inferInstanceAs (Decidable (∀ u ∈ db.upstreams.rows, _))
    case insertModel => exact inferInstanceAs (Decidable (_ = none))
    all_goals exact isTrue trivial
  all_goals exact isTrue trivial

instance : apart.Decides where
  faults _ := isFalse id
  serial := isFalse id
  admits _ op db := inferInstanceAs (Decidable (Apart db op))

/-- The second finds the upstream and one of its models. -/
theorem registrations_upsert_inTurn : ∃ history s answer, Reaches apart twoAtOneAddress history s ∧
    listings (s.procs 1).calls = [.ok (.ok ["b", "a"])] ∧ s.ReturnedAs bothRegister 1 answer ∧
    AdminRestApi.Shows (Auth.trim "https://a") ["b", "a"] answer s.db := by
  obtain ⟨history, s, values, reached, ⟨ended, listed⟩, returned⟩ := State.exists_of_inTurn apart bothRegister
    noUpstreams () [(0, lists 1 ["a"]), (1, lists 2 ["b", "a"])]
    (fun values s => values.map Prod.fst = [0, 1] ∧ listings (s.procs 1).calls = [.ok (.ok ["b", "a"])])
    (by decide) (by decide +kernel)
  have member : (1 : Fin 2) ∈ values.map Prod.fst := by
    rw [ended]
    exact List.mem_cons_of_mem _ List.mem_cons_self
  obtain ⟨⟨_, answer⟩, inside, rfl⟩ := List.mem_map.mp member
  have keepable : Keepable knownAnswer "" (Auth.trim "ключ-ключ") :=
    ⟨ellipse_iff.mp (by decide +kernel), fun nonce => ⟨_, rfl, by decide⟩⟩
  have upserted := registrations_upsert knownAnswer_lawful (fun _ => "")
    (fun _ : Fin 2 => ((zeroNonce, zeroNonce), registration "ключ-ключ"))
    ⟨fun u never => absurd never List.not_mem_nil, fun u never => absurd never List.not_mem_nil,
      fun u never => absurd never List.not_mem_nil⟩
    (fun _ _ => ⟨by decide, by decide, keepable⟩) reached
  exact ⟨history, s, answer, reached, listed, returned _ inside,
    upserted.2.2.2.2 1 answer _ (returned _ inside) listed (by decide)⟩

end LLMPool.Secrets
