import LLMPool.Relational.Decoding
import LLMPool.Secrets.Upstreams
import Mathlib

/-! The upstreams' keys over any sequence of rewrites: each stored key decrypts to the one
that was supplied last, and so every read returns it. -/
namespace LLMPool.Secrets
open Relational Transactions

def Ascii (text : String) : Prop := ∀ c ∈ text.toList, c.toNat < 128

section Ellipsis

theorem utf8Size_ascii {c : Char} (ascii : c.toNat < 128) : c.utf8Size = 1 := by
  have small : c.val ≤ 0x7F := by
    rw [UInt32.le_iff_toNat_le]
    exact Nat.le_of_lt_succ ascii
  simp [Char.utf8Size, small]

theorem lengthInBytes_ascii {text : List Char} (ascii : ∀ c ∈ text, c.toNat < 128) :
    lengthInBytes text = text.length := by
  induction text with
  | nil => rfl
  | cons c text ih =>
      have rest := ih (fun c' member => ascii c' (List.mem_cons_of_mem _ member))
      have first := utf8Size_ascii (ascii c List.mem_cons_self)
      simp only [lengthInBytes, List.map_cons, List.sum_cons, List.length_cons] at rest ⊢
      omega

theorem splitBytes_ascii {text : List Char} (ascii : ∀ c ∈ text, c.toNat < 128) (n : Nat)
    (short : n ≤ text.length) : splitBytes n text = some (text.take n, text.drop n) := by
  induction text generalizing n with
  | nil =>
      obtain rfl : n = 0 := Nat.le_zero.mp short
      rfl
  | cons c text ih =>
      cases n with
      | zero => rfl
      | succ n =>
          have first := utf8Size_ascii (ascii c List.mem_cons_self)
          have rest := ih (fun c' member => ascii c' (List.mem_cons_of_mem _ member)) n
            (Nat.le_of_succ_le_succ short)
          simp [splitBytes, first, rest]

theorem ellipse_ascii {key : String} (ascii : Ascii key) : ∃ ellipsed, ellipseApiKey key = some ellipsed := by
  rw [ellipseApiKey]
  split
  · exact ⟨key, rfl⟩
  · rename_i long
    rw [lengthInBytes_ascii ascii] at long ⊢
    rw [splitBytes_ascii ascii 6 (by omega), splitBytes_ascii ascii (key.toList.length - 6) (by omega)]
    exact ⟨_, rfl⟩

end Ellipsis

/-- The requests that write to an upstream. -/
inductive Rewrite where
  | createUpstream (new : NewLLMUpstream)
  | updateUpstream (upstreamId : Int) (update : UpdateLLMUpstream)
  | addUpstreamTag (upstreamId : Int) (tag : String)
  | removeUpstreamTag (upstreamId : Int) (tag : String)
  | markUpstreamOffline (upstreamId : Int)
  | markUpstreamOnline (upstreamId : Int)
  deriving DecidableEq

/-- What a rewrite returns: the record, where there is one. -/
abbrev Rewritten := Except QueryError (Option LLMUpstream)

namespace Rewrite

def apiKey : Rewrite → Option String
  | createUpstream new => some new.apiKey
  | updateUpstream _ update => update.apiKey
  | _ => none

def run (p : Primitives) (encryptionKey : String) (nonce : Nonce) : Rewrite → Prog engine Rewritten
  | createUpstream new => (do return some (← Secrets.createUpstream p encryptionKey nonce new) : Query _).run
  | updateUpstream upstreamId update =>
      (do return some (← Secrets.updateUpstream p encryptionKey nonce upstreamId update) : Query _).run
  | addUpstreamTag upstreamId tag =>
      (do return some (← Secrets.addUpstreamTag p encryptionKey upstreamId tag) : Query _).run
  | removeUpstreamTag upstreamId tag =>
      (do return some (← Secrets.removeUpstreamTag p encryptionKey upstreamId tag) : Query _).run
  | markUpstreamOffline upstreamId => (do Secrets.markUpstreamOffline upstreamId; return none : Query _).run
  | markUpstreamOnline upstreamId => (do Secrets.markUpstreamOnline upstreamId; return none : Query _).run

/-- The key that a rewrite has supplied for an upstream; one that fails supplies none. -/
def supplies : Rewrite → Rewritten → Int → Option String
  | createUpstream new, .ok (some u), id => if u.id = id then some new.apiKey else none
  | updateUpstream upstreamId update, .ok _, id => if upstreamId = id then update.apiKey else none
  | _, _, _ => none

end Rewrite

abbrev RewriteTurn := Turned engine (Nonce × Rewrite) Rewritten

/-- The key that was supplied last for an upstream, by the newest of the turns. -/
def supplied : List RewriteTurn → Int → Option String
  | [], _ => none
  | turn :: older, id => (turn.index.2.supplies turn.value id).orElse (fun _ => supplied older id)

/-- Rewrites that are handled one at a time, each with a nonce of its own. -/
def Rewrites (p : Primitives) (encryptionKey : String) (faults : Op engine → Prop) (initial : Db) :
    List RewriteTurn → Db → Prop :=
  Sequence faults (fun request => request.2.run p encryptionKey request.1) initial

section Keys
variable {p : Primitives} {encryptionKey : String} {faults : Op engine → Prop} {db : Db}

theorem decryptUpstream_ok {row : UpstreamRow} (opens : Opens p encryptionKey row text) (ascii : Ascii text) :
    ∃ u, decryptUpstream p encryptionKey row = .ok u ∧ u.id = row.id ∧ u.apiKey = text := by
  obtain ⟨ellipsed, short⟩ := ellipse_ascii ascii
  simp only [decryptUpstream, show decryptIfConfigured p encryptionKey row.encryptedApiKey = .ok text from opens,
    short]
  exact ⟨_, rfl, rfl, rfl⟩

/-- Every stored key decrypts to an ASCII text. -/
def Readable (p : Primitives) (encryptionKey : String) (db : Db) : Prop :=
  ∀ id row, db.upstreams.find id = some row → ∃ text, Opens p encryptionKey row text ∧ Ascii text

/-- The rows keep their keys, but for one that is supplied. -/
def Rekeyed (p : Primitives) (encryptionKey : String) (supplies : Int → Option String) (db db' : Db) : Prop :=
  ∀ id row', db'.upstreams.find id = some row' →
    match supplies id with
    | some text => Opens p encryptionKey row' text
    | none => ∃ row, db.upstreams.find id = some row ∧
        ∀ text, Opens p encryptionKey row text → Opens p encryptionKey row' text

/-- Where only other columns change, every key is kept. -/
theorem Rekeyed.kept {supplies : Int → Option String} {db' : Db} (none : ∀ id, supplies id = none)
    (same : ∀ id row', db'.upstreams.find id = some row' →
      ∃ row, db.upstreams.find id = some row ∧ row.encryptedApiKey = row'.encryptedApiKey) :
    Rekeyed p encryptionKey supplies db db' := by
  intro id row' found
  obtain ⟨row, before, kept⟩ := same id row' found
  rw [none id]
  refine ⟨row, before, fun text opens => ?_⟩
  rw [Opens, ← kept]
  exact opens

theorem Rekeyed.refl {supplies : Int → Option String} (none : ∀ id, supplies id = none) :
    Rekeyed p encryptionKey supplies db db :=
  .kept none (fun _ row found => ⟨row, found, rfl⟩)

theorem find_change {id : Int} {change : Change} {j : Int} {row' : UpstreamRow}
    (found : (apply (.change id change) db).upstreams.find j = some row') :
    ∃ row, db.upstreams.find j = some row ∧ ((j = id ∧ row' = change.on row) ∨ (j ≠ id ∧ row' = row)) := by
  simp only [apply, Table.find_modify] at found
  obtain ⟨row, before, rfl⟩ := Option.map_eq_some_iff.mp found
  refine ⟨row, before, ?_⟩
  obtain ⟨_, here⟩ := Table.find_iff.mp before
  rw [Table.at_key]
  split
  · rename_i same
    exact .inl ⟨here.symm.trans same, rfl⟩
  · rename_i other
    exact .inr ⟨fun same => other (here.trans same), rfl⟩

/-- A new row brings its key along. -/
theorem Rekeyed.inserted {row : UpstreamRow} {new : NewLLMUpstream} {u : LLMUpstream}
    (unused : db.upstreams.find row.id = none) (opens : Opens p encryptionKey row new.apiKey)
    (same : u.id = row.id) :
    Rekeyed p encryptionKey ((Rewrite.createUpstream new).supplies (.ok (some u))) db (apply (.insert row) db) := by
  intro id row' found
  simp only [apply] at found
  by_cases here : row.id = id
  · subst here
    have stored : (db.upstreams.insert row).find row.id = some row := Table.find_insert_self ⟨unused, unused⟩
    cases stored.symm.trans found
    simpa only [Rewrite.supplies, if_pos same] using opens
  · have other : u.id ≠ id := fun at_id => here (same.symm.trans at_id)
    have before : db.upstreams.find id = some row' :=
      (Table.find_insert_ne db.upstreams here).symm.trans found
    simp only [Rewrite.supplies, if_neg other]
    exact ⟨row', before, fun _ opens => opens⟩

/-- An update of every column writes the key that was supplied, or the one that was read. -/
theorem Rekeyed.updated {row new : UpstreamRow} {update : UpdateLLMUpstream} {text : String}
    {u : Option LLMUpstream} (stored : db.upstreams.find new.id = some row)
    (read : Opens p encryptionKey row text) (opens : Opens p encryptionKey new (update.apiKey.getD text)) :
    Rekeyed p encryptionKey ((Rewrite.updateUpstream new.id update).supplies (.ok u)) db
      (apply (.change new.id (.columns new)) db) := by
  intro id row' found
  obtain ⟨before, kept, ⟨rfl, rfl⟩ | ⟨other, rfl⟩⟩ := find_change found
  · cases stored.symm.trans kept
    simp only [Rewrite.supplies, ↓reduceIte]
    cases supplied : update.apiKey with
    | some key =>
        rw [supplied] at opens
        exact opens
    | none =>
        rw [supplied] at opens
        refine ⟨row, stored, fun text' opens' => ?_⟩
        cases read.symm.trans opens'
        exact opens
  · simp only [Rewrite.supplies, if_neg (Ne.symm other)]
    exact ⟨row', kept, fun _ opens => opens⟩

end Keys

section Parts
variable {p : Primitives} {encryptionKey : String} {faults : Op engine → Prop} {m : Solo engine}

theorem yields_query {s : Stmt} {Q : Except QueryError s.Answer → Solo engine → Prop}
    (answered : ∀ env answer m', possible s env m.db = true → exec s env m.db = some answer →
      m'.db = engine.applyAll (writes s answer) m.db → Q (.ok answer) m')
    (refused : ∀ e m', m'.db = m.db → Q (.error e) m') : (query s).run.yields faults Q m := by
  simp only [query, ExceptT.run_mk]
  refine yields_bind.mpr (yields_pooled (E := engine) (s := s) (fun env answer drawn executed => ?_) ?_ ?_)
  · exact answered env answer _ drawn executed rfl
  · exact fun _ => refused _ _ rfl
  · exact fun _ => refused _ _ rfl

/-- A statement that is never refused fails with the database only. -/
theorem yields_select {s : Stmt} {Q : Except QueryError s.Answer → Solo engine → Prop}
    (reads : ∀ env, exec s env m.db ≠ none)
    (answered : ∀ env answer m', exec s env m.db = some answer → Q (.ok answer) m')
    (failed : ∀ m', faults (.auto s) → Q (.error (.sqlx (.database .fault))) m') :
    (query s).run.yields faults Q m := by
  simp only [query, ExceptT.run_mk]
  refine yields_bind.mpr (yields_pooled (E := engine) (s := s) (fun env answer _ executed => ?_) ?_ ?_)
  · exact answered env answer _ executed
  · rintro ⟨env, never⟩
    exact absurd never (reads env)
  · exact fun faulty => failed _ faulty

theorem yields_fetchOne {answer : Option α} {Q : Except QueryError α → Solo engine → Prop}
    (found : ∀ row, answer = some row → Q (.ok row) m) (missing : answer = none → Q (.error (.sqlx .rowNotFound)) m) :
    (fetchOne answer).run.yields faults Q m := by
  cases answer with
  | none => exact missing rfl
  | some row => exact found row rfl

theorem yields_attempt {result : Except QueryError α} {Q : Except QueryError α → Solo engine → Prop}
    (ok : ∀ value, result = .ok value → Q (.ok value) m) (error : ∀ e, result = .error e → Q (.error e) m) :
    (attempt result).run.yields faults Q m := by
  cases result with
  | ok value => exact ok value rfl
  | error e => exact error e rfl

/-- A row whose key can be read is decrypted. -/
theorem yields_decrypt {row : UpstreamRow} {text : String} {Q : Except QueryError LLMUpstream → Solo engine → Prop}
    (opens : Opens p encryptionKey row text) (ascii : Ascii text)
    (decrypted : ∀ u : LLMUpstream, u.id = row.id → u.apiKey = text → Q (.ok u) m) :
    (attempt (decryptUpstream p encryptionKey row)).run.yields faults Q m := by
  obtain ⟨u, made, same, here⟩ := decryptUpstream_ok opens ascii
  refine yields_attempt (fun value made' => ?_) (fun e never => ?_)
  · cases made.symm.trans made'
    exact decrypted u same here
  · cases made.symm.trans never

/-- The record of a row whose key can be read. -/
theorem yields_getUpstream {upstreamId : Int} {Q : Except QueryError LLMUpstream → Solo engine → Prop}
    (readable : Readable p encryptionKey m.db)
    (found : ∀ row u m', m.db.upstreams.find upstreamId = some row → u.id = upstreamId →
      Opens p encryptionKey row u.apiKey → Ascii u.apiKey → m'.db = m.db → Q (.ok u) m')
    (failed : ∀ e m', m'.db = m.db → Q (.error e) m') :
    (getUpstream p encryptionKey upstreamId).run.yields faults Q m := by
  refine yields_run_bind.mpr (yields_query (fun env answer m' _ executed db => ?_) failed)
  refine yields_run_bind.mpr (yields_fetchOne (fun row present => ?_) (fun _ => failed _ _ db))
  subst present
  have stored : m.db.upstreams.find upstreamId = some row := Option.some.inj executed
  obtain ⟨text, opens, ascii⟩ := readable upstreamId row stored
  refine yields_decrypt opens ascii (fun u same here => ?_)
  subst here
  exact found row u m' stored (same.trans (Table.find_iff.mp stored).2) opens ascii db

end Parts

section Steps
variable {p : Primitives} {encryptionKey : String} {faults : Op engine → Prop} {db : Db}

theorem supplies_error {rewrite : Rewrite} {e : QueryError} (id : Int) : rewrite.supplies (.error e) id = none := by
  cases rewrite <;> rfl

theorem yields_create (lawful : p.Lawful) (nonce : Nonce) (new : NewLLMUpstream) (ascii : Ascii new.apiKey) :
    ((Rewrite.createUpstream new).run p encryptionKey nonce).yields faults
      (fun value m => Rekeyed p encryptionKey ((Rewrite.createUpstream new).supplies value) db m.db)
      ⟨[], db, ()⟩ := by
  refine yields_run_bind.mpr (yields_run_bind.mpr
    (yields_attempt (fun encrypted encrypts => ?_) (fun e _ => .refl supplies_error)))
  refine yields_run_bind.mpr (yields_query (fun env row m' drawn executed written => ?_) ?_)
  · have roundTrip := decryptIfConfigured_encryptIfConfigured lawful (encryptApiKey_ok encrypts)
    have made : row = new.row env.serial encrypted := by
      simp only [exec] at executed
      split at executed
      · exact (Option.some.inj executed).symm
      · cases executed
    have opens : Opens p encryptionKey row new.apiKey := by
      rw [made]
      exact roundTrip
    have unused : db.upstreams.find row.id = none := by
      rw [made]
      simp only [possible, decide_eq_true_eq] at drawn
      exact drawn.2
    have inserted : m'.db = apply (.insert row) db := written
    refine yields_decrypt opens ascii (fun u same _ => ?_)
    have kept : Rekeyed p encryptionKey ((Rewrite.createUpstream new).supplies (.ok (some u))) db m'.db := by
      rw [inserted]
      exact .inserted unused opens same
    exact kept
  · intro e m' same
    dsimp only at same ⊢
    rw [same]
    exact .refl supplies_error

theorem yields_update (lawful : p.Lawful) (nonce : Nonce) (upstreamId : Int) (update : UpdateLLMUpstream)
    (ascii : ∀ key, update.apiKey = some key → Ascii key) (readable : Readable p encryptionKey db) :
    ((Rewrite.updateUpstream upstreamId update).run p encryptionKey nonce).yields faults
      (fun value m => Rekeyed p encryptionKey ((Rewrite.updateUpstream upstreamId update).supplies value) db m.db)
      ⟨[], db, ()⟩ := by
  have failed : ∀ (e : QueryError) (m' : Solo engine), m'.db = db →
      Rekeyed p encryptionKey ((Rewrite.updateUpstream upstreamId update).supplies (.error e)) db m'.db := by
    intro e m' same
    rw [same]
    exact .refl supplies_error
  refine yields_run_bind.mpr (yields_run_bind.mpr (yields_getUpstream readable ?_ failed))
  intro row u m₁ stored here read ascii' same
  refine yields_run_bind.mpr (yields_attempt (fun encrypted encrypts => ?_) (fun e _ => failed e m₁ same))
  refine yields_run_bind.mpr (yields_query (fun env answer m₂ _ executed written => ?_)
    (fun e m₂ same' => failed e m₂ (same'.trans same)))
  subst here
  rw [same] at written
  let new := columns update u encrypted
  have roundTrip : Opens p encryptionKey new (update.apiKey.getD u.apiKey) :=
    decryptIfConfigured_encryptIfConfigured lawful (encryptApiKey_ok encrypts)
  have asciiKey : Ascii (update.apiKey.getD u.apiKey) := by
    cases supplied : update.apiKey with
    | none => exact ascii'
    | some key => exact ascii key supplied
  have row_after : answer = some ((Change.columns new).on row) := by
    have answered := exec_updated executed
    rw [same] at answered
    exact answered.trans (congrArg (Option.map (Change.columns new).on) stored)
  subst row_after
  refine yields_decrypt roundTrip asciiKey (fun u' _ _ => ?_)
  have changed : m₂.db = apply (.change new.id (.columns new)) db := written
  have kept : Rekeyed p encryptionKey ((Rewrite.updateUpstream new.id update).supplies (.ok (some u'))) db
      (apply (.change new.id (.columns new)) db) := .updated stored read roundTrip
  rw [← changed] at kept
  exact kept

/-- The stored keys. -/
def keysOf (m : Solo engine) (id : Int) : Option String :=
  (m.db.upstreams.find id).map (fun row => row.encryptedApiKey)

/-- A statement that changes the tags or the status of a row. -/
def Keyless (s : Stmt) : Prop :=
  ∀ answer, writes s answer = [] ∨ ∃ id change, writes s answer = [.change id change] ∧
    ∀ row, (change.on row).encryptedApiKey = row.encryptedApiKey

theorem keys_changed {id : Int} {change : Change}
    (keeps : ∀ row, (change.on row).encryptedApiKey = row.encryptedApiKey) (j : Int) :
    ((apply (.change id change) db).upstreams.find j).map (fun row => row.encryptedApiKey) =
      (db.upstreams.find j).map (fun row => row.encryptedApiKey) := by
  simp only [apply, Table.find_modify, Option.map_map]
  refine congrArg (fun f => (db.upstreams.find j).map f) (funext (fun row => ?_))
  simp only [Function.comp_apply, Table.at_key]
  split
  · exact keeps row
  · rfl

theorem Keyless.keeps {s : Stmt} (keyless : Keyless s) : (Op.auto s : Op engine).Keeps keysOf := by
  intro m reply world
  cases reply with
  | error reason => rfl
  | ok answer =>
      funext id
      simp only [keysOf, Solo.after, Op.commits]
      rcases keyless answer with none | ⟨id', change, one, keeps⟩
      · rw [none]
        rfl
      · rw [one]
        exact keys_changed keeps id

theorem only_query {P : Op engine → Prop} {s : Stmt} (allowed : P (.auto s)) : (query s).run.Only P := by
  refine only_bind (only_pooled (E := engine) allowed) ?_
  rintro (e | answer) <;> trivial

theorem only_fetched {P : Op engine → Prop} (answer : Option UpstreamRow) :
    (do attempt (decryptUpstream p encryptionKey (← fetchOne answer)) : Query LLMUpstream).run.Only P := by
  refine only_run_bind ?_ (fun row => trivial)
  cases answer <;> trivial

theorem keyless_tag (upstreamId : Int) (tag : String) :
    Keyless (.addUpstreamTag upstreamId tag) ∧ Keyless (.removeUpstreamTag upstreamId tag) := by
  constructor <;> rintro (_ | row)
  · exact .inl rfl
  · exact .inr ⟨_, _, rfl, fun _ => rfl⟩
  · exact .inl rfl
  · exact .inr ⟨_, _, rfl, fun _ => rfl⟩

theorem keyless_status (upstreamId : Int) :
    Keyless (.markUpstreamOffline upstreamId) ∧ Keyless (.markUpstreamOnline upstreamId) :=
  ⟨fun _ => .inr ⟨_, _, rfl, fun _ => rfl⟩, fun _ => .inr ⟨_, _, rfl, fun _ => rfl⟩⟩

/-- A rewrite that supplies no key and leaves the stored ones alone. -/
theorem yields_keyless {rewrite : Rewrite} {nonce : Nonce} (none : ∀ value id, rewrite.supplies value id = none)
    (only : (rewrite.run p encryptionKey nonce).Only (Op.Keeps keysOf)) :
    (rewrite.run p encryptionKey nonce).yields faults
      (fun value m => Rekeyed p encryptionKey (rewrite.supplies value) db m.db) ⟨[], db, ()⟩ := by
  refine yields_mono (fun value m same => .kept (none value) (fun id row' found => ?_)) (yields_keeps only)
  have kept := congrFun same id
  simp only [keysOf, found, Option.map_some] at kept
  obtain ⟨row, before, key⟩ := Option.map_eq_some_iff.mp kept.symm
  exact ⟨row, before, key⟩

/-- A rewrite from rows whose keys can be read. -/
theorem Rewrite.yields_run (lawful : p.Lawful) (rewrite : Rewrite) (nonce : Nonce)
    (ascii : ∀ key, rewrite.apiKey = some key → Ascii key) (readable : Readable p encryptionKey db) :
    (rewrite.run p encryptionKey nonce).yields faults
      (fun value m => Rekeyed p encryptionKey (rewrite.supplies value) db m.db) ⟨[], db, ()⟩ := by
  cases rewrite with
  | createUpstream new => exact yields_create lawful nonce new (ascii _ rfl)
  | updateUpstream upstreamId update => exact yields_update lawful nonce upstreamId update ascii readable
  | addUpstreamTag upstreamId tag =>
      exact yields_keyless (fun _ _ => rfl) (only_run_bind (only_run_bind
        (only_query (keyless_tag upstreamId tag).1.keeps) only_fetched) (fun _ => trivial))
  | removeUpstreamTag upstreamId tag =>
      exact yields_keyless (fun _ _ => rfl) (only_run_bind (only_run_bind
        (only_query (keyless_tag upstreamId tag).2.keeps) only_fetched) (fun _ => trivial))
  | markUpstreamOffline upstreamId =>
      exact yields_keyless (fun _ _ => rfl)
        (only_run_bind (only_query (keyless_status upstreamId).1.keeps) (fun _ => trivial))
  | markUpstreamOnline upstreamId =>
      exact yields_keyless (fun _ _ => rfl)
        (only_run_bind (only_query (keyless_status upstreamId).2.keeps) (fun _ => trivial))

end Steps

inductive Read where
  | getUpstream (id : Int)
  | listUpstreams
  | findUpstreamsByTag (tag : String)
  | findModelsByNameAndCapacity (modelName provider feature : String)
  deriving DecidableEq

namespace Read

/-- The upstreams that a read returns. -/
def run (p : Primitives) (encryptionKey : String) : Read → Prog engine (Except QueryError (List LLMUpstream))
  | getUpstream id => (do return [← Secrets.getUpstream p encryptionKey id] : Query _).run
  | listUpstreams => (Secrets.listUpstreams p encryptionKey).run
  | findUpstreamsByTag tag => (Secrets.findUpstreamsByTag p encryptionKey tag).run
  | findModelsByNameAndCapacity modelName provider feature =>
      (do return (← Secrets.findModelsByNameAndCapacity p encryptionKey modelName provider feature).map Prod.snd
        : Query _).run

/-- The rows that it asks for. -/
def selects (db : Db) : Read → List UpstreamRow
  | getUpstream id => (db.upstreams.find id).toList
  | listUpstreams => db.upstreams.rows
  | findUpstreamsByTag tag => db.upstreams.rows.filter (fun u => tag ∈ u.tags)
  | findModelsByNameAndCapacity modelName provider feature =>
      (joined db modelName provider feature).map Prod.snd

end Read

section Reads
variable {p : Primitives} {encryptionKey : String} {faults : Op engine → Prop} {db : Db}

/-- The records of some rows, each with its key. -/
def Decrypted (p : Primitives) (encryptionKey : String) : List UpstreamRow → List LLMUpstream → Prop :=
  List.Forall₂ (fun row u => u.id = row.id ∧ Opens p encryptionKey row u.apiKey)

/-- What a read comes to: the records of the rows it asks for, in some order, or an error
of the database. -/
def ReadsKeys (p : Primitives) (encryptionKey : String) (faults : Op engine → Prop) (selected : List UpstreamRow)
    (value : Except QueryError (List LLMUpstream)) : Prop :=
  (∃ rows upstreams, rows.Perm selected ∧ value = .ok upstreams ∧ Decrypted p encryptionKey rows upstreams) ∨
    (value = .error (.sqlx .rowNotFound) ∧ selected = []) ∨
    value = .error (.sqlx (.database .fault)) ∧ ∃ s, faults (.auto s)

theorem Decrypted.ids {rows : List UpstreamRow} {upstreams : List LLMUpstream}
    (decrypted : Decrypted p encryptionKey rows upstreams) :
    upstreams.map (fun u => u.id) = rows.map (fun row => row.id) := by
  induction decrypted with
  | nil => rfl
  | cons related _ ih => rw [List.map_cons, List.map_cons, related.1, ih]

theorem Decrypted.row {rows : List UpstreamRow} {upstreams : List LLMUpstream}
    (decrypted : Decrypted p encryptionKey rows upstreams) :
    ∀ u ∈ upstreams, ∃ row ∈ rows, u.id = row.id ∧ Opens p encryptionKey row u.apiKey := by
  induction decrypted with
  | nil => exact fun u never => absurd never List.not_mem_nil
  | @cons row u rows upstreams related _ ih =>
      intro u' member
      rcases List.mem_cons.mp member with rfl | later
      · exact ⟨row, List.mem_cons_self, related⟩
      · obtain ⟨row', inside, same⟩ := ih u' later
        exact ⟨row', List.mem_cons_of_mem _ inside, same⟩

theorem decrypts_row (readable : Readable p encryptionKey db) {row : UpstreamRow} (stored : row ∈ db.upstreams) :
    ∃ u, decryptUpstream p encryptionKey row = .ok u ∧ u.id = row.id ∧ Opens p encryptionKey row u.apiKey := by
  obtain ⟨text, opens, ascii⟩ := readable row.id row (Table.find_of_mem stored)
  obtain ⟨u, made, same, rfl⟩ := decryptUpstream_ok opens ascii
  exact ⟨u, made, same, opens⟩

/-- A list of stored rows is read with all its keys. -/
theorem decryptAll_ok (readable : Readable p encryptionKey db) {rows selected : List UpstreamRow}
    (perm : rows.Perm selected) (stored : ∀ row ∈ selected, row ∈ db.upstreams) :
    ReadsKeys p encryptionKey faults selected (decryptAll p encryptionKey rows) := by
  obtain ⟨upstreams, made, decrypted⟩ := mapM_forall₂
    (fun row member => decrypts_row readable (stored row (perm.mem_iff.mp member)))
  exact .inl ⟨rows, upstreams, perm, made, decrypted⟩

theorem yields_list {s : Stmt} {selected : List UpstreamRow} {rows : s.Answer → List UpstreamRow}
    (readable : Readable p encryptionKey db) (stored : ∀ row ∈ selected, row ∈ db.upstreams)
    (selects : ∀ env, ∃ answer, exec s env db = some answer ∧ (rows answer).Perm selected) :
    (do attempt (decryptAll p encryptionKey (rows (← query s))) : Query (List LLMUpstream)).run.yields faults
      (fun value _ => ReadsKeys p encryptionKey faults selected value) ⟨[], db, ()⟩ := by
  refine yields_run_bind.mpr (yields_select ?_ ?_ ?_)
  · intro env never
    obtain ⟨answer, executed, _⟩ := selects env
    cases executed.symm.trans never
  · intro env answer m' executed
    obtain ⟨answer', executed', perm⟩ := selects env
    cases executed'.symm.trans executed
    exact decryptAll_ok readable perm stored
  · exact fun m' faulty => .inr (.inr ⟨rfl, s, faulty⟩)

theorem yields_one (readable : Readable p encryptionKey db) (id : Int) :
    ((Read.getUpstream id).run p encryptionKey).yields faults
      (fun value _ => ReadsKeys p encryptionKey faults ((Read.getUpstream id).selects db) value) ⟨[], db, ()⟩ := by
  refine yields_run_bind.mpr (yields_run_bind.mpr (yields_select nofun ?_ ?_))
  · intro env answer m' executed
    have found : db.upstreams.find id = answer := Option.some.inj executed
    refine yields_run_bind.mpr (yields_fetchOne (fun row present => ?_) (fun missing => ?_))
    · subst present
      obtain ⟨text, opens, ascii⟩ := readable id row found
      refine yields_decrypt opens ascii (fun u same here => .inl ⟨[row], [u], ?_, rfl, ?_⟩)
      · simp [Read.selects, found]
      · exact .cons ⟨same, here ▸ opens⟩ .nil
    · subst missing
      exact .inr (.inl ⟨rfl, by simp [Read.selects, found]⟩)
  · exact fun m' faulty => .inr (.inr ⟨rfl, _, faulty⟩)

theorem yields_models (readable : Readable p encryptionKey db) (modelName provider feature : String) :
    ((Read.findModelsByNameAndCapacity modelName provider feature).run p encryptionKey).yields faults
      (fun value _ => ReadsKeys p encryptionKey faults
        ((Read.findModelsByNameAndCapacity modelName provider feature).selects db) value) ⟨[], db, ()⟩ := by
  refine yields_run_bind.mpr (yields_run_bind.mpr (yields_select nofun ?_ ?_))
  · intro env rows m' executed
    have perm : rows.Perm (joined db modelName provider feature) :=
      Option.some.inj executed ▸ Table.arrange_perm _ _
    have each : ∀ row ∈ rows, ∃ pair, intoTuple p encryptionKey row = .ok pair ∧
        (pair.2.id = row.2.id ∧ Opens p encryptionKey row.2 pair.2.apiKey) := by
      intro row member
      obtain ⟨u, made, same, opens⟩ := decrypts_row readable (mem_joined (perm.mem_iff.mp member))
      refine ⟨(row.1, u), ?_, same, opens⟩
      rw [intoTuple, made]
      rfl
    obtain ⟨pairs, made, decrypted⟩ := mapM_forall₂ each
    refine yields_attempt (fun value made' => ?_) (fun e never => ?_)
    · cases made.symm.trans made'
      refine .inl ⟨rows.map Prod.snd, pairs.map Prod.snd, perm.map Prod.snd, rfl, ?_⟩
      rw [Decrypted, List.forall₂_map_left_iff, List.forall₂_map_right_iff]
      exact decrypted
    · cases made.symm.trans never
  · exact fun m' faulty => .inr (.inr ⟨rfl, _, faulty⟩)

theorem read_stored {read : Read} {row : UpstreamRow} (member : row ∈ read.selects db) : row ∈ db.upstreams := by
  cases read with
  | getUpstream id => exact (Table.find_iff.mp (Option.mem_toList.mp member)).1
  | listUpstreams => exact member
  | findUpstreamsByTag tag => exact (List.mem_filter.mp member).1
  | findModelsByNameAndCapacity modelName provider feature =>
      obtain ⟨pair, inside, rfl⟩ := List.mem_map.mp member
      exact mem_joined inside

theorem Read.yields_run (readable : Readable p encryptionKey db) (read : Read) :
    (read.run p encryptionKey).yields faults
      (fun value _ => ReadsKeys p encryptionKey faults (read.selects db) value) ⟨[], db, ()⟩ := by
  cases read with
  | getUpstream id => exact yields_one readable id
  | listUpstreams =>
      exact yields_list (s := .listUpstreams) readable (fun row stored => stored)
        (fun env => ⟨_, rfl, Table.arrange_perm _ _⟩)
  | findUpstreamsByTag tag =>
      exact yields_list (s := .findUpstreamsByTag tag) readable
        (fun row stored => (List.mem_filter.mp stored).1) (fun env => ⟨_, rfl, Table.arrange_perm _ _⟩)
  | findModelsByNameAndCapacity modelName provider feature =>
      exact yields_models readable modelName provider feature

end Reads

section Runs
variable {p : Primitives} {encryptionKey : String} {faults : Op engine → Prop} {initial db : Db}
  {turns : List RewriteTurn}

/-- Each stored key decrypts to the ASCII text that was supplied last for its upstream. -/
def Kept (p : Primitives) (encryptionKey : String) (turns : List RewriteTurn) (db : Db) : Prop :=
  ∀ id row, db.upstreams.find id = some row →
    ∃ text, Opens p encryptionKey row text ∧ supplied turns id = some text ∧ Ascii text

theorem Kept.readable (kept : Kept p encryptionKey turns db) : Readable p encryptionKey db := by
  intro id row found
  obtain ⟨text, opens, _, ascii⟩ := kept id row found
  exact ⟨text, opens, ascii⟩

theorem supplies_ascii {rewrite : Rewrite} (ascii : ∀ key, rewrite.apiKey = some key → Ascii key)
    {value : Rewritten} {id : Int} {text : String} (supplies : rewrite.supplies value id = some text) :
    Ascii text := by
  cases rewrite with
  | createUpstream new =>
      rcases value with e | (_ | u)
      · cases supplies
      · cases supplies
      · simp only [Rewrite.supplies, Option.ite_none_right_eq_some, Option.some.injEq] at supplies
        exact supplies.2 ▸ ascii _ rfl
  | updateUpstream upstreamId update =>
      rcases value with e | u
      · cases supplies
      · simp only [Rewrite.supplies, Option.ite_none_right_eq_some] at supplies
        exact ascii text supplies.2
  | _ => cases supplies

theorem Kept.rekeyed {turn : RewriteTurn} (kept : Kept p encryptionKey turns turn.before)
    (ascii : ∀ key, turn.index.2.apiKey = some key → Ascii key)
    (rekeyed : Rekeyed p encryptionKey (turn.index.2.supplies turn.value) turn.before turn.after.db) :
    Kept p encryptionKey (turn :: turns) turn.after.db := by
  intro id row' found
  have step := rekeyed id row' found
  rw [supplied]
  cases supplies : turn.index.2.supplies turn.value id with
  | some text =>
      rw [supplies] at step
      exact ⟨text, step, rfl, supplies_ascii ascii supplies⟩
  | none =>
      rw [supplies] at step
      obtain ⟨row, before, opens⟩ := step
      obtain ⟨text, read, given, plain⟩ := kept id row before
      exact ⟨text, opens text read, given, plain⟩

theorem Rewrites.kept (lawful : p.Lawful) (rewritten : Rewrites p encryptionKey faults initial turns db)
    (fresh : initial.upstreams.rows = [])
    (ascii : ∀ turn ∈ turns, ∀ key, turn.index.2.apiKey = some key → Ascii key) :
    Kept p encryptionKey turns db := by
  induction rewritten with
  | start =>
      intro id row found
      have member := (Table.find_iff.mp found).1
      rw [Table.mem_def, fresh] at member
      cases member
  | turn earlier world request ran ih =>
      have before := ih (fun turn member => ascii turn (List.mem_cons_of_mem _ member))
      have supplied := ascii _ List.mem_cons_self
      exact before.rekeyed supplied (ran.yields (request.2.yields_run lawful request.1 supplied before.readable))

/-- After every sequence of rewrites no stored key fails to decrypt, and every read yields
the key that was supplied last for each upstream that it asks for. -/
theorem secrets_survive (lawful : p.Lawful) (rewritten : Rewrites p encryptionKey faults initial turns db)
    (fresh : initial.upstreams.rows = [])
    (ascii : ∀ turn ∈ turns, ∀ key, turn.index.2.apiKey = some key → Ascii key) :
    (∀ row ∈ db.upstreams, ∃ text, decryptIfConfigured p encryptionKey row.encryptedApiKey = .ok text) ∧
    ∀ (read : Read) value m, (read.run p encryptionKey).Runs faults ⟨[], db, ()⟩ value m →
      (∃ upstreams, value = .ok upstreams ∧
        (upstreams.map (fun u => u.id)).Perm ((read.selects db).map (fun row => row.id)) ∧
        ∀ u ∈ upstreams, supplied turns u.id = some u.apiKey) ∨
      (value = .error (.sqlx .rowNotFound) ∧ read.selects db = []) ∨
      value = .error (.sqlx (.database .fault)) ∧ ∃ s, faults (.auto s) := by
  have kept := rewritten.kept lawful fresh ascii
  constructor
  · intro row member
    obtain ⟨text, opens, _⟩ := kept row.id row (Table.find_of_mem member)
    exact ⟨text, opens⟩
  · intro read value m ran
    rcases ran.yields (read.yields_run kept.readable) with ⟨rows, upstreams, perm, rfl, decrypted⟩ | failed
    · refine .inl ⟨upstreams, rfl, decrypted.ids ▸ perm.map _, fun u member => ?_⟩
      obtain ⟨row, inside, same, read⟩ := decrypted.row u member
      have stored := read_stored (perm.mem_iff.mp inside)
      obtain ⟨text, opens, given, _⟩ := kept row.id row (Table.find_of_mem stored)
      cases opens.symm.trans read
      rw [same]
      exact given
    · exact .inr failed

end Runs

def zeros (n : Nat) : ByteArray := ⟨Array.replicate n 0⟩

/-- The tag of the empty text under the zero key and the zero nonce. -/
def emptyTag : ByteArray := ⟨#[83, 15, 138, 251, 199, 69, 54, 185, 169, 99, 180, 241, 196, 203, 115, 139]⟩

def zeroKey : String := String.ofList (List.replicate 64 '0')

/-- The primitives where they are known: at the zero key, the zero nonce and the empty text. -/
def knownAnswer : Primitives where
  hexDecode text := if text = zeroKey then .ok (zeros 32) else .error "Invalid string length"
  aesEncrypt key nonce text :=
    if key = zeros 32 ∧ nonce = zeros 12 ∧ text = ByteArray.empty then some emptyTag else none
  aesDecrypt key nonce sealed :=
    if key = zeros 32 ∧ nonce = zeros 12 ∧ sealed = emptyTag then some ByteArray.empty else none
  base64Encode bytes :=
    if bytes = zeros 12 ++ emptyTag then "AAAAAAAAAAAAAAAAUw+K+8dFNrmpY7TxxMtziw=="
    else String.ofList ('?' :: bytes.data.toList.map (fun b => Char.ofNat b.toNat))
  base64Decode text :=
    if text = "AAAAAAAAAAAAAAAAUw+K+8dFNrmpY7TxxMtziw==" then .ok (zeros 12 ++ emptyTag)
    else .ok ⟨((text.toList.drop 1).map (fun c => UInt8.ofNat c.toNat)).toArray⟩

theorem ofNat_toNat_char (b : UInt8) : UInt8.ofNat (Char.ofNat b.toNat).toNat = b := by
  have small := b.toNat_lt
  have valid : Nat.isValidChar b.toNat := .inl (by omega)
  rw [Char.ofNat, dif_pos valid]
  exact UInt8.ofNat_toNat

theorem knownAnswer_lawful : knownAnswer.Lawful where
  tagged {key nonce text sealed} made := by
    simp only [knownAnswer, Option.ite_none_right_eq_some, Option.some.injEq] at made
    obtain ⟨⟨_, _, rfl⟩, rfl⟩ := made
    rfl
  opens {key nonce text sealed} made := by
    simp only [knownAnswer, Option.ite_none_right_eq_some, Option.some.injEq] at made ⊢
    obtain ⟨⟨rfl, rfl, rfl⟩, rfl⟩ := made
    exact ⟨⟨rfl, rfl, rfl⟩, rfl⟩
  decodes {bytes} := by
    simp only [knownAnswer]
    split
    · rename_i known
      rw [if_pos rfl, known]
    · have other : String.ofList ('?' :: bytes.data.toList.map (fun b => Char.ofNat b.toNat)) ≠
          "AAAAAAAAAAAAAAAAUw+K+8dFNrmpY7TxxMtziw==" := by
        intro same
        have heads := congrArg (fun text : String => text.toList.head?) same
        simp at heads
      rw [if_neg other]
      simp [ofNat_toNat_char, Function.comp_def]

def keylessUpstream : NewLLMUpstream := ⟨"first", "https://a", "", "openai", [], [], "online", ""⟩

def zeroNonce : Nonce := ⟨zeros 12, rfl⟩

/-- Without a new key the stored one is decrypted and encrypted again. -/
def renamed : UpdateLLMUpstream := ⟨some "second", none, none, none, none, none, none, none⟩

def alone : Env := ⟨1, 0, .error .network⟩

/-- An upstream is created with an empty key, goes offline, and is renamed. -/
def keyless : List ((Nonce × Rewrite) × Env × Unit) :=
  [((zeroNonce, .createUpstream keylessUpstream), alone, ()), ((zeroNonce, .markUpstreamOffline 1), alone, ()),
    ((zeroNonce, .updateUpstream 1 renamed), alone, ())]

/-- The keys that a read has returned, with the ids of their upstreams. -/
def keysRead : Except QueryError (List LLMUpstream) → List (Int × String)
  | .ok upstreams => upstreams.map (fun u => (u.id, u.apiKey))
  | .error _ => []

/-- The row of the empty key, which is read again, with the turns that have supplied nothing else. -/
def StoresEmptyKey (turns : List RewriteTurn) (db : Db) : Prop :=
  (db.upstreams.find 1).map (fun row => (row.encryptedApiKey, row.name, row.status)) =
      some ("AAAAAAAAAAAAAAAAUw+K+8dFNrmpY7TxxMtziw==", "second", "offline") ∧
    supplied turns 1 = some "" ∧ (∀ turn ∈ turns, turn.index.2.apiKey.all (fun key => key = "") = true) ∧
    ((Read.listUpstreams.run knownAnswer zeroKey).alone alone ⟨[], db, ()⟩).map (fun ended => keysRead ended.1) =
      some [(1, "")]

instance : DecidablePred (StoresEmptyKey turns) := by
  unfold StoresEmptyKey
  infer_instance

/-- An empty key survives, as the tag that it is encrypted to, and is read as it was supplied. -/
theorem secrets_survive_empty : ∃ turns db,
    Rewrites knownAnswer zeroKey (fun _ => False) ⟨.empty, .empty⟩ turns db ∧ StoresEmptyKey turns db ∧
    (∀ row ∈ db.upstreams, ∃ text, decryptIfConfigured knownAnswer zeroKey row.encryptedApiKey = .ok text) ∧
    ∃ upstreams m, (Read.listUpstreams.run knownAnswer zeroKey).Runs (fun _ => False) ⟨[], db, ()⟩ (.ok upstreams) m ∧
      upstreams.map (fun u => u.id) = [1] ∧ ∀ u ∈ upstreams, supplied turns u.id = some u.apiKey := by
  have ran : ∃ turns db, Rewrites knownAnswer zeroKey (fun _ => False) ⟨.empty, .empty⟩ turns db ∧
      StoresEmptyKey turns db :=
    Sequence.exists_of_script keyless StoresEmptyKey .start (by decide +kernel)
  obtain ⟨turns, db, run, stores⟩ := ran
  have ascii : ∀ turn ∈ turns, ∀ key, turn.index.2.apiKey = some key → Ascii key := by
    intro turn member key given
    have empty := stores.2.2.1 turn member
    simp only [given, Option.all_some, decide_eq_true_eq] at empty
    subst empty
    intro c never
    cases never
  obtain ⟨readable, reads⟩ := secrets_survive knownAnswer_lawful run rfl ascii
  refine ⟨turns, db, run, stores, readable, ?_⟩
  obtain ⟨⟨value, m⟩, ended, keys⟩ := Option.map_eq_some_iff.mp stores.2.2.2
  have ran : (Read.listUpstreams.run knownAnswer zeroKey).Runs (fun _ => False) ⟨[], db, ()⟩ value m :=
    runs_of_alone ended
  rcases reads .listUpstreams value m ran with ⟨upstreams, rfl, _, given⟩ | ⟨rfl, _⟩ | ⟨rfl, _⟩
  · refine ⟨upstreams, m, ran, ?_, given⟩
    have ids := congrArg (List.map Prod.fst) keys
    rw [keysRead, List.map_map] at ids
    exact ids
  · cases keys
  · cases keys

end LLMPool.Secrets
