import LLMPool.Pricing.Tables
import LLMPool.Query
import LLMPool.Secrets.Crypto

/-! The upstreams as they are stored, with their encrypted keys, and the database functions
that write and read them. -/
namespace LLMPool.Secrets
open Relational Transactions

/-- A row of `llm_upstreams`. -/
structure UpstreamRow where
  id : Int
  name : String
  apiBase : String
  encryptedApiKey : String
  ellipsedApiKey : String
  provider : String
  tags : List String
  proxies : List String
  status : String
  description : String
  deriving DecidableEq

instance : Row UpstreamRow Int Int := ⟨UpstreamRow.id, UpstreamRow.id⟩

/-- The record with the decrypted key. -/
structure LLMUpstream extends UpstreamRow where
  apiKey : String
  deriving DecidableEq

structure NewLLMUpstream where
  name : String
  apiBase : String
  apiKey : String
  provider : String
  tags : List String
  proxies : List String
  status : String
  description : String
  deriving DecidableEq

def NewLLMUpstream.row (new : NewLLMUpstream) (id : Int) (encryptedApiKey : String) : UpstreamRow where
  id := id
  name := new.name
  apiBase := new.apiBase
  encryptedApiKey := encryptedApiKey
  ellipsedApiKey := ""
  provider := new.provider
  tags := new.tags
  proxies := new.proxies
  status := new.status
  description := new.description

/-- Every column is bound, from the update or from the record that was read. -/
def columns (update : UpdateLLMUpstream) (current : LLMUpstream) (encryptedApiKey : String) : UpstreamRow where
  id := current.id
  name := update.name.getD current.name
  apiBase := update.apiBase.getD current.apiBase
  encryptedApiKey := encryptedApiKey
  ellipsedApiKey := current.ellipsedApiKey
  provider := update.provider.getD current.provider
  tags := update.tags.getD current.tags
  proxies := update.proxies.getD current.proxies
  status := update.status.getD current.status
  description := update.description.getD current.description

structure Db where
  upstreams : Table UpstreamRow
  models : Table LLMModel

/-- The serial id that a row draws, the order of rows that none is promised for, and the
models that an upstream lists. -/
structure Env where
  serial : Int
  pick : Nat
  listed : Except ClientError (List String) := .error .network

inductive Stmt where
  | insertUpstream (new : NewLLMUpstream) (encryptedApiKey : String)
  | getUpstream (id : Int)
  | listUpstreams
  | updateUpstream (new : UpstreamRow)
  | markUpstreamOffline (id : Int)
  | markUpstreamOnline (id : Int)
  | addUpstreamTag (id : Int) (tag : String)
  | removeUpstreamTag (id : Int) (tag : String)
  | findUpstreamsByTag (tag : String)
  | findModelsByNameAndCapacity (modelName provider feature : String)
  | getUpstreamByApiBase (apiBase : String)
  | listOfflineUpstreams
  | listModelsByUpstream (upstreamId : Int)
  | findModelByUpstreamAndModelId (upstreamId : Int) (modelId : String)
  | insertModel (new : Pricing.NewLLMModel)

@[reducible] def Stmt.Answer : Stmt → Type
  | .insertUpstream _ _ => UpstreamRow
  | .getUpstream _ | .updateUpstream _ | .addUpstreamTag _ _ | .removeUpstreamTag _ _
  | .getUpstreamByApiBase _ => Option UpstreamRow
  | .listUpstreams | .findUpstreamsByTag _ | .listOfflineUpstreams => List UpstreamRow
  | .markUpstreamOffline _ | .markUpstreamOnline _ => Unit
  | .findModelsByNameAndCapacity _ _ _ => List (LLMModel × UpstreamRow)
  | .listModelsByUpstream _ => List LLMModel
  | .findModelByUpstreamAndModelId _ _ => Option LLMModel
  | .insertModel _ => LLMModel

/-- What one `UPDATE` does to a row. -/
inductive Change where
  | status (value : String)
  | addTag (tag : String)
  | removeTag (tag : String)
  | columns (new : UpstreamRow)

def Change.on : Change → UpstreamRow → UpstreamRow
  | .status value, u => { u with status := value }
  | .addTag tag, u => { u with tags := if tag ∈ u.tags then u.tags else u.tags ++ [tag] }
  | .removeTag tag, u => { u with tags := u.tags.filter (fun t => t ≠ tag) }
  | .columns new, u => { new with id := u.id, ellipsedApiKey := u.ellipsedApiKey }

theorem change_keeps (change : Change) (u : UpstreamRow) :
    key (change.on u) = key u ∧ index (change.on u) = index u := by
  cases change <;> exact ⟨rfl, rfl⟩

/-- The join of `find_models_by_name_and_capacity`. -/
def joined (db : Db) (modelName provider feature : String) : List (LLMModel × UpstreamRow) :=
  db.models.rows.flatMap (fun m => (db.upstreams.rows.filter (fun u =>
    m.upstreamId = u.id ∧ m.cname = modelName ∧ u.provider = provider ∧ u.status = "online" ∧
      m.isActive ∧ feature ∈ m.features)).map (fun u => (m, u)))

/-- No text column holds a NUL. -/
def storable (u : UpstreamRow) : Bool :=
  ([u.name, u.apiBase, u.encryptedApiKey, u.provider, u.status, u.description] ++ u.tags ++ u.proxies).all
    (fun text => !text.toList.contains (Char.ofNat 0))

def possible (s : Stmt) (env : Env) (db : Db) : Bool :=
  match s with
  | .insertUpstream _ _ => 0 < env.serial ∧ db.upstreams.find env.serial = none
  | .insertModel _ => 0 < env.serial ∧ db.models.find env.serial = none
  | _ => true

/-- A row after an update, or no answer where the update cannot be stored. -/
def updated (db : Db) (id : Int) (change : Change) : Option (Option UpstreamRow) :=
  match db.upstreams.find id with
  | none => some none
  | some u => if storable (change.on u) then some (some (change.on u)) else none

def exec (s : Stmt) (env : Env) (db : Db) : Option s.Answer :=
  match s with
  | .insertUpstream new encryptedApiKey =>
      let row := new.row env.serial encryptedApiKey
      if storable row then some row else none
  | .getUpstream id => some (db.upstreams.find id)
  | .listUpstreams => some (Table.arrange env.pick db.upstreams.rows)
  | .updateUpstream new => updated db new.id (.columns new)
  | .markUpstreamOffline _ => some ()
  | .markUpstreamOnline _ => some ()
  | .addUpstreamTag id tag => updated db id (.addTag tag)
  | .removeUpstreamTag id tag => updated db id (.removeTag tag)
  | .findUpstreamsByTag tag =>
      some (Table.arrange env.pick (db.upstreams.rows.filter (fun u => tag ∈ u.tags)))
  | .findModelsByNameAndCapacity modelName provider feature =>
      some (Table.arrange env.pick (joined db modelName provider feature))
  | .getUpstreamByApiBase apiBase =>
      some (Table.arrange env.pick (db.upstreams.rows.filter (fun u => u.apiBase = apiBase))).head?
  | .listOfflineUpstreams =>
      some (Table.arrange env.pick (db.upstreams.rows.filter (fun u => u.status = "offline")))
  | .listModelsByUpstream upstreamId =>
      some (Table.arrange env.pick (db.models.rows.filter (fun m => m.upstreamId = upstreamId)))
  | .findModelByUpstreamAndModelId upstreamId modelId => some (db.models.lookup (upstreamId, modelId))
  | .insertModel new =>
      if (db.models.lookup (new.upstreamId, new.fullname)).isNone ∧ !new.fullname.toList.contains (Char.ofNat 0) then
        some (new.row env.serial)
      else none

inductive Write where
  | insert (row : UpstreamRow)
  | change (id : Int) (change : Change)
  | insertModel (row : LLMModel)

def writes (s : Stmt) (answer : s.Answer) : List Write :=
  match s, answer with
  | .insertUpstream _ _, row => [.insert row]
  | .updateUpstream new, some _ => [.change new.id (.columns new)]
  | .markUpstreamOffline id, _ => [.change id (.status "offline")]
  | .markUpstreamOnline id, _ => [.change id (.status "online")]
  | .addUpstreamTag id tag, some _ => [.change id (.addTag tag)]
  | .removeUpstreamTag id tag, some _ => [.change id (.removeTag tag)]
  | .insertModel _, row => [.insertModel row]
  | _, _ => []

def apply (w : Write) (db : Db) : Db :=
  match w with
  | .insert row => { db with upstreams := db.upstreams.insert row }
  | .change id change =>
      { db with upstreams := db.upstreams.modify id change.on (change_keeps change) }
  | .insertModel row => { db with models := db.models.insert row }

/-- What the endpoints ask of an upstream. -/
inductive Remote where
  | listModels (apiKey apiBase : String)

@[reducible] def Remote.Reply : Remote → Type
  | .listModels _ _ => Except ClientError (List String)

/-- Every statement runs on the pool, and commits on its own. -/
@[reducible] def engine : Transactions.Engine where
  Db := Db
  World := Unit
  Env := Env
  Stmt := Stmt
  Answer := Stmt.Answer
  Write := Write
  Lock := Empty
  Remote := Remote
  Reply := Remote.Reply
  possible := possible
  exec := exec
  writes := writes
  locks _ _ := []
  apply := apply
  touches _ := []
  remote c env world :=
    match c with
    | .listModels _ _ => (env.listed, world)
  same l _ _ := l.elim
  same_refl l := l.elim
  same_trans l := l.elim
  covered _ _ _ _ l := l.elim
  apply_same _ l := l.elim

/-- `panicked` is a slice of a text that would split a character. -/
inductive QueryError where
  | sqlx (e : SqlxError)
  | protocol (message : List Value)
  | panicked

abbrev Query := ExceptT QueryError (Prog engine)

def query (s : Stmt) : Query s.Answer :=
  ExceptT.mk (do
    match ← (LLMPool.Query.pooled (E := engine) s).run with
    | .error e => return .error (.sqlx e)
    | .ok answer => return .ok answer)

def attempt (result : Except QueryError α) : Query α := ExceptT.mk (return result)

/-- `fetch_one`. -/
def fetchOne (answer : Option α) : Query α :=
  match answer with
  | some row => return row
  | none => throw (.sqlx .rowNotFound)

/-- The first `n` bytes of a text and the rest, where no character is split. -/
def splitBytes : Nat → List Char → Option (List Char × List Char)
  | 0, text => some ([], text)
  | _ + 1, [] => none
  | n + 1, c :: text =>
      if c.utf8Size ≤ n + 1 then (splitBytes (n + 1 - c.utf8Size) text).map (fun (first, rest) => (c :: first, rest))
      else none

def lengthInBytes (text : List Char) : Nat := (text.map Char.utf8Size).sum

/-- The first and the last six bytes of a key of more than twelve. -/
def ellipseApiKey (key : String) : Option String :=
  if lengthInBytes key.toList ≤ 12 then some key
  else do
    let (first, _) ← splitBytes 6 key.toList
    let (_, last) ← splitBytes (lengthInBytes key.toList - 6) key.toList
    return String.ofList first ++ "..." ++ String.ofList last

section Functions
variable (p : Primitives) (encryptionKey : String)

def decryptUpstream (row : UpstreamRow) : Except QueryError LLMUpstream :=
  match decryptIfConfigured p encryptionKey row.encryptedApiKey with
  | .error e => .error (.protocol (.string "Failed to decrypt encrypted_api_key: " :: e.display))
  | .ok plaintext =>
      match ellipseApiKey plaintext with
      | none => .error .panicked
      | some ellipsed => .ok { row with ellipsedApiKey := ellipsed, apiKey := plaintext }

def encryptApiKey (nonce : Nonce) (apiKey : String) : Except QueryError String :=
  match encryptIfConfigured p encryptionKey nonce apiKey with
  | .error e => .error (.protocol (.string "Failed to encrypt api_key: " :: e.display))
  | .ok encrypted => .ok encrypted

def createUpstream (nonce : Nonce) (new : NewLLMUpstream) : Query LLMUpstream := do
  let encryptedKey ← attempt (encryptApiKey p encryptionKey nonce new.apiKey)
  let row ← query (.insertUpstream new encryptedKey)
  attempt (decryptUpstream p encryptionKey row)

def getUpstream (upstreamId : Int) : Query LLMUpstream := do
  let row ← fetchOne (← query (.getUpstream upstreamId))
  attempt (decryptUpstream p encryptionKey row)

/-- A key that is not updated is encrypted again. -/
def updateUpstream (nonce : Nonce) (upstreamId : Int) (update : UpdateLLMUpstream) : Query LLMUpstream := do
  let current ← getUpstream p encryptionKey upstreamId
  let encryptedKey ← attempt (encryptApiKey p encryptionKey nonce (update.apiKey.getD current.apiKey))
  let row ← fetchOne (← query (.updateUpstream (columns update current encryptedKey)))
  attempt (decryptUpstream p encryptionKey row)

def addUpstreamTag (upstreamId : Int) (tag : String) : Query LLMUpstream := do
  let row ← fetchOne (← query (.addUpstreamTag upstreamId tag))
  attempt (decryptUpstream p encryptionKey row)

def removeUpstreamTag (upstreamId : Int) (tag : String) : Query LLMUpstream := do
  let row ← fetchOne (← query (.removeUpstreamTag upstreamId tag))
  attempt (decryptUpstream p encryptionKey row)

def markUpstreamOffline (upstreamId : Int) : Query Unit := query (.markUpstreamOffline upstreamId)

def markUpstreamOnline (upstreamId : Int) : Query Unit := query (.markUpstreamOnline upstreamId)

/-- `collect` stops at the first row that fails. -/
def decryptAll (rows : List UpstreamRow) : Except QueryError (List LLMUpstream) :=
  rows.mapM (decryptUpstream p encryptionKey)

def listUpstreams : Query (List LLMUpstream) := do
  attempt (decryptAll p encryptionKey (← query .listUpstreams))

def listOfflineUpstreams : Query (List LLMUpstream) := do
  attempt (decryptAll p encryptionKey (← query .listOfflineUpstreams))

def getUpstreamByApiBase (apiBase : String) : Query LLMUpstream := do
  let row ← fetchOne (← query (.getUpstreamByApiBase apiBase))
  attempt (decryptUpstream p encryptionKey row)

def findUpstreamsByTag (tag : String) : Query (List LLMUpstream) := do
  attempt (decryptAll p encryptionKey (← query (.findUpstreamsByTag tag)))

/-- `ModelUpstreamRow::into_tuple`. -/
def intoTuple (row : LLMModel × UpstreamRow) : Except QueryError (LLMModel × LLMUpstream) := do
  return (row.1, ← decryptUpstream p encryptionKey row.2)

def findModelsByNameAndCapacity (modelName provider feature : String) :
    Query (List (LLMModel × LLMUpstream)) := do
  let rows ← query (.findModelsByNameAndCapacity modelName provider feature)
  attempt (rows.mapM (intoTuple p encryptionKey))

end Functions

section Lemmas
variable {p : Primitives} {encryptionKey : String} {db : Db}

/-- A row's stored key decrypts to this text. -/
def Opens (p : Primitives) (encryptionKey : String) (row : UpstreamRow) (text : String) : Prop :=
  decryptIfConfigured p encryptionKey row.encryptedApiKey = .ok text

theorem encryptApiKey_ok {nonce : Nonce} {apiKey encrypted : String}
    (encrypts : encryptApiKey p encryptionKey nonce apiKey = .ok encrypted) :
    encryptIfConfigured p encryptionKey nonce apiKey = .ok encrypted := by
  rw [encryptApiKey] at encrypts
  split at encrypts
  · cases encrypts
  · rename_i made
    cases encrypts
    exact made

theorem exec_updated {id : Int} {change : Change} {answer : Option UpstreamRow}
    (executed : updated db id change = some answer) :
    answer = (db.upstreams.find id).map change.on := by
  rw [updated] at executed
  split at executed
  · rename_i absent
    cases executed
    rw [absent, Option.map_none]
  · rename_i u found
    rw [found, Option.map_some]
    split at executed
    · exact (Option.some.inj executed).symm
    · cases executed

theorem mem_joined {modelName provider feature : String} {row : LLMModel × UpstreamRow}
    (member : row ∈ joined db modelName provider feature) : row.2 ∈ db.upstreams := by
  simp only [joined, List.mem_flatMap, List.mem_map, List.mem_filter] at member
  obtain ⟨_, _, u, ⟨stored, _⟩, rfl⟩ := member
  exact stored

end Lemmas

end LLMPool.Secrets
