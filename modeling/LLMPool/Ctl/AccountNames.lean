import LLMPool.Ctl.Client
import LLMPool.Http.Segments
import LLMPool.Passthrough.Headers

/-! Which account a name stands for on the command line: a number is an ID, and any other name
is put into a URL as it is, so that it has to be what is read there. -/
namespace LLMPool.Ctl
open AccountRoutes Billing Http Passthrough Relational

/-- A client with an address that has nothing behind the host, and with a token that can be
sent. -/
structure Addresses (client : ApiClient α) : Prop where
  url : (parseUrl client.client.host (utf8 client.baseUrl ++ [byte '/'])).isSome = true
  plain : ∀ b ∈ utf8 client.baseUrl, endsPath b = false
  root : basePath (utf8 client.baseUrl) = []
  token : (HeaderValue.fromBytes (utf8 client.token)).isSome = true

/-- A server that accepts the token of a client. -/
def Admits (server : Server) (client : ApiClient α) : Prop :=
  server.authJwt (HeaderValue.fromBytes (utf8 client.token)) = none

/-- The name of an account stands for the account, and each wallet command that has it is for
that account. -/
structure ActsOn (client : ApiClient α) (server : Server) (account : Account) : Prop where
  resolved : resolveAccountId account.name client server = .ok account.id
  wallet : ∀ action : WalletAction, action.account = account.name →
    handleWallet action client server = .ok (action.request account.id)

def directory : List Bytes := ["api".toList.map byte, "v1".toList.map byte, "accounts_by_name".toList.map byte]

/-- The path of the URL that is made with a name. -/
def namePath (name : String) : Bytes := pathText (readPath directory [] (cleanEnd (utf8 name)))

/-- The ID that a name leads to, where it leaves the accounts' names for their IDs. -/
def referredId (name : String) : Option Int := do
  let raw ← param accountsById (namePath name)
  parseI64 (← textParam raw)

/-- A number is the ID of its account; any other name is read as itself, or leads to the ID. -/
def StandsFor (account : Account) : Prop :=
  match parseI64 account.name with
  | some id => id = account.id
  | none => IsSegment (utf8 account.name) ∨ referredId account.name = some account.id

/-- A server that answers nothing but accounts, to anyone. -/
def accountServer (accounts : Table Account) : Server := ⟨accounts, fun _ => none, fun raw => raw, fun _ _ => (404, [])⟩

section Texts
variable {raw route path : Bytes} {text name : String}

theorem utf8_append (first second : String) : utf8 (first ++ second) = utf8 first ++ utf8 second := by
  rw [utf8, String.toUTF8, String.toByteArray_append, ByteArray.toList_data_append]
  rfl

theorem utf8_ne_nil (nonempty : name ≠ "") : utf8 name ≠ [] := by
  intro none
  refine nonempty (String.toByteArray_inj.mp (ByteArray.ext (Array.toList_inj.mp ?_)))
  exact none

theorem textParam_eq_some : textParam raw = some text ↔ percentDecode raw = utf8 text := by
  rw [textParam, String.fromUTF8?]
  constructor
  · intro read
    split at read
    · cases read
      rfl
    · cases read
  · intro same
    have bytes : (⟨(percentDecode raw).toArray⟩ : ByteArray) = text.toByteArray := by
      rw [same]
      rfl
    rw [bytes, dif_pos text.isValidUTF8]
    rfl

theorem param_eq_some : param route path = some raw ↔ path = route ++ raw ∧ raw ≠ [] ∧ byte '/' ∉ raw := by
  rw [param]
  constructor
  · intro matched
    split at matched
    · rename_i conditions
      cases matched
      exact ⟨(List.prefix_iff_eq_append.mp conditions.1).symm, conditions.2⟩
    · cases matched
  · rintro ⟨rfl, conditions⟩
    rw [List.drop_left, if_pos ⟨List.prefix_append _ _, conditions⟩]

/-- No path is on both routes. -/
theorem param_apart (byId : param accountsById path = some raw) : param accountsByName path = none := by
  by_contra matched
  obtain ⟨other, matched⟩ := Option.ne_none_iff_exists'.mp matched
  obtain ⟨rfl, _⟩ := param_eq_some.mp byId
  have extends' : accountsByName <+: accountsById ++ raw := ⟨other, (param_eq_some.mp matched).1.symm⟩
  have shorter := List.prefix_of_prefix_length_le (List.prefix_append accountsById raw) extends' (by decide)
  exact absurd shorter (by decide)

/-- A name is looked up as itself exactly where it is one segment. -/
theorem named_iff (nonempty : name ≠ "") :
    (∃ raw, param accountsByName (namePath name) = some raw ∧ textParam raw = some name) ↔ IsSegment (utf8 name) := by
  have behind : ∀ raw : Bytes, accountsByName ++ raw = pathText directory ++ byte '/' :: raw :=
    fun raw => congrArg (fun route => route ++ raw) (by decide : accountsByName = pathText directory ++ [byte '/'])
  rw [← reads_segment_iff directory]
  constructor
  · rintro ⟨raw, matched, decoded⟩
    obtain ⟨read, _, single⟩ := param_eq_some.mp matched
    exact ⟨raw, read.trans (behind raw), single, textParam_eq_some.mp decoded⟩
  · rintro ⟨raw, read, single, decoded⟩
    refine ⟨raw, param_eq_some.mpr ⟨read.trans (behind raw).symm, ?_, single⟩, textParam_eq_some.mpr decoded⟩
    rintro rfl
    exact utf8_ne_nil nonempty decoded.symm

end Texts

section Requests
variable {client : ApiClient α} {server : Server} {accounts : Table Account} {account found : Account}
  {name : String}

/-- The URL that is made with a name has its path. -/
theorem read_url (empty : client.client.host [] = none) (addresses : Addresses client) (name : String) :
    ∃ url, parseUrl client.client.host (utf8 (client.url ("/accounts_by_name/" ++ name))) = some url ∧
      pathText url.path = namePath name := by
  let behind : Bytes := "api/v1/accounts_by_name".toList.map byte
  have written : utf8 (client.url ("/accounts_by_name/" ++ name)) =
      utf8 client.baseUrl ++ byte '/' :: (behind ++ byte '/' :: utf8 name) := by
    have route : utf8 ("/api/v1" ++ "/accounts_by_name/") = byte '/' :: (behind ++ [byte '/']) := by decide +kernel
    rw [ApiClient.url, utf8_append, ← String.append_assoc, utf8_append, route]
    simp
  have named : afterScheme (cleanStart (utf8 client.baseUrl)) ≠ [] :=
    named_of_parsed_append empty (by simp) addresses.url
  obtain ⟨url, parsed⟩ := Option.isSome_iff_exists.mp
    ((isSome_parseUrl_append_slash named (behind ++ byte '/' :: utf8 name) []).trans addresses.url)
  have path := (parseUrl_append_slash named addresses.plain parsed).1
  have untabbed : behind.filter (fun b => !isTabOrNewline b) = behind := by decide +kernel
  have whole : ∀ b ∈ behind, endsPath b = false := by decide +kernel
  rw [addresses.root, cleanEnd_append_slash, untabbed, readPath_directory whole] at path
  refine ⟨url, written ▸ parsed, ?_⟩
  rw [path]
  rfl

/-- The request for a name is for its path, with the token. -/
theorem get_named (empty : client.client.host [] = none) (addresses : Addresses client) (admits : Admits server client)
    (name : String) : ∃ headers query, server.authJwt (adminToken headers) = none ∧
      client.get server ("/accounts_by_name/" ++ name) =
        client.handleResponse (server.get headers (namePath name) query) := by
  obtain ⟨url, parsed, path⟩ := read_url empty addresses name
  obtain ⟨value, sent⟩ := Option.isSome_iff_exists.mp addresses.token
  let header : Header := (⟨"x-admin-token", by decide, by decide, by decide⟩, value)
  have built : (RequestBuilder.request client.client .get (utf8 (client.url ("/accounts_by_name/" ++ name)))).header
      "x-admin-token" (utf8 client.token) = some ⟨.get, url, [header], []⟩ := by
    rw [RequestBuilder.request, parsed, RequestBuilder.header, sent]
    rfl
  refine ⟨[header], url.query, ?_, ?_⟩
  · rw [Admits, sent] at admits
    exact admits
  · rw [ApiClient.get, built, ← path]

theorem answer_admitted {headers : List Header} {raw : Bytes} {parameter : Option β}
    {handler : β → AdminRestApi.Response Account} (admitted : server.authJwt (adminToken headers) = none) :
    client.handleResponse (server.answer headers raw parameter handler) = .ok found ↔
      ∃ value, parameter = some value ∧ ∃ status, handler value = .success status found := by
  simp only [Server.answer, admitted]
  cases parameter with
  | none => simp [ApiClient.handleResponse]
  | some value => cases answered : handler value <;> simp [ApiClient.handleResponse, answered]

theorem getAccountByName_success : (∃ status, getAccountByName accounts name = .success status found) ↔
    Catalogue.IsText name ∧ accounts.lookup name = some found := by
  rw [getAccountByName]
  split
  · cases accounts.lookup name <;> simp_all
  · simp_all [AdminRestApi.databaseError]

theorem getAccountById_success {id : Int} : (∃ status, AccountRoutes.getAccountById accounts id = .success status found) ↔
    accounts.find id = some found := by
  rw [AccountRoutes.getAccountById]
  cases accounts.find id <;> simp [Auth.accountNotFound]

/-- What is found at a path, where only the accounts' routes find anything. -/
theorem found_iff {headers : List Header} {path : Bytes} {query : Option Bytes}
    (admitted : server.authJwt (adminToken headers) = none) :
    client.handleResponse (server.get headers path query) = .ok found ↔
      match param accountsByName path, param accountsById path with
      | some raw, _ => ∃ text, textParam raw = some text ∧ Catalogue.IsText text ∧
          server.accounts.lookup text = some found
      | none, some raw => ∃ id, textParam raw >>= parseI64 = some id ∧ server.accounts.find id = some found
      | none, none => client.handleResponse
          (.other (server.elsewhere path query).1 (server.elsewhere path query).2) = .ok found := by
  rw [Server.get]
  cases param accountsByName path with
  | some raw =>
      rw [answer_admitted admitted]
      simp only [getAccountByName_success]
  | none =>
      cases param accountsById path with
      | some raw =>
          rw [answer_admitted admitted]
          simp only [getAccountById_success]
      | none => rfl

end Requests

section Accounts
variable {client : ApiClient α} {server : Server} {accounts : Table Account} {account : Account} {name : String}

theorem resolveAccountId_number {id : Int} (numbered : parseI64 name = some id) :
    resolveAccountId name client server = .ok id := by
  rw [resolveAccountId, numbered]
  rfl

theorem resolveAccountId_name {id : Int} (unnumbered : parseI64 name = none) :
    resolveAccountId name client server = .ok id ↔
      ∃ found, client.get server ("/accounts_by_name/" ++ name) = .ok found ∧ found.id = id := by
  rw [resolveAccountId, unnumbered]
  cases client.get server ("/accounts_by_name/" ++ name) <;> simp [bind, Except.bind, pure, Except.pure]

theorem actsOn_iff : ActsOn client server account ↔ resolveAccountId account.name client server = .ok account.id := by
  constructor
  · exact ActsOn.resolved
  · intro resolved
    refine ⟨resolved, fun action same => ?_⟩
    rw [handleWallet, same, resolved]
    rfl

/-- Where the accounts are all that is answered, an account that is found for a name is that of
the name, or the one that the name leads to. -/
theorem stands_of_found {found : Account} {headers : List Header} {query : Option Bytes} (nonempty : account.name ≠ "")
    (member : account ∈ accounts) (same : found.id = account.id)
    (got : client.handleResponse ((accountServer accounts).get headers (namePath account.name) query) = .ok found) :
    IsSegment (utf8 account.name) ∨ referredId account.name = some account.id := by
  rw [found_iff rfl] at got
  cases byName : param accountsByName (namePath account.name) with
  | some raw =>
      simp only [byName] at got
      obtain ⟨text, decoded, _, at_name⟩ := got
      obtain ⟨inside, named⟩ := Table.lookup_iff.mp at_name
      obtain rfl : found = account := Table.eq_of_key inside member same
      obtain rfl : found.name = text := named
      exact .inl ((named_iff nonempty).mp ⟨raw, byName, decoded⟩)
  | none =>
      cases byId : param accountsById (namePath account.name) with
      | some raw =>
          simp only [byName, byId] at got
          obtain ⟨id, decoded, at_id⟩ := got
          obtain rfl : found.id = id := (Table.find_iff.mp at_id).2
          refine .inr ?_
          rw [referredId, byId, ← same]
          exact decoded
      | none =>
          simp only [byName, byId] at got
          cases got

theorem found_of_stands {headers : List Header} {query : Option Bytes} (nonempty : account.name ≠ "")
    (isText : Catalogue.IsText account.name) (member : account ∈ server.accounts)
    (admitted : server.authJwt (adminToken headers) = none)
    (stands : IsSegment (utf8 account.name) ∨ referredId account.name = some account.id) :
    client.handleResponse (server.get headers (namePath account.name) query) = .ok account := by
  rw [found_iff admitted]
  rcases stands with segment | refers
  · obtain ⟨raw, byName, decoded⟩ := (named_iff nonempty).mpr segment
    simp only [byName]
    exact ⟨account.name, decoded, isText, Table.lookup_iff.mpr ⟨member, rfl⟩⟩
  · obtain ⟨raw, byId, decoded⟩ := Option.bind_eq_some_iff.mp refers
    simp only [param_apart byId, byId]
    exact ⟨account.id, decoded, Table.find_of_mem member⟩

theorem actsOn_iff_standsFor (empty : client.client.host [] = none) (addresses : Addresses client)
    (created : Created accounts) (member : account ∈ accounts) :
    (∀ server : Server, server.accounts = accounts → Admits server client → ActsOn client server account) ↔
      StandsFor account := by
  obtain ⟨nonempty, isText⟩ := created.named member
  simp only [actsOn_iff]
  rw [StandsFor]
  cases numbered : parseI64 account.name with
  | some number =>
      simp only [resolveAccountId_number numbered, Except.ok.injEq]
      exact ⟨fun each => each (accountServer accounts) rfl rfl, fun same _ _ _ => same⟩
  | none =>
      simp only [resolveAccountId_name numbered]
      constructor
      · intro each
        obtain ⟨found, got, same⟩ := each (accountServer accounts) rfl rfl
        have admits : Admits (accountServer accounts) client := rfl
        obtain ⟨headers, query, _, asked⟩ := get_named empty addresses admits account.name
        rw [asked] at got
        exact stands_of_found nonempty member same got
      · rintro stands server rfl admits
        obtain ⟨headers, query, admitted, asked⟩ := get_named empty addresses admits account.name
        exact ⟨account, asked.trans (found_of_stands nonempty isText member admitted stands), rfl⟩

/-- The commands that have the name of an account are for that account, whatever else the server
answers, exactly where the name stands for it. So they are in every set of accounts exactly
where the name is no number and is read in the URL as it is. -/
theorem account_names_iff (empty : client.client.host [] = none) (addresses : Addresses client) :
    (∀ accounts, Created accounts → ∀ account ∈ accounts,
      ((∀ server : Server, server.accounts = accounts → Admits server client → ActsOn client server account) ↔
        StandsFor account)) ∧
    ∀ name, Auth.trim name = name → name ≠ "" → Catalogue.IsText name →
      ((∀ accounts, Created accounts → ∀ account ∈ accounts, account.name = name →
          ∀ server : Server, server.accounts = accounts → Admits server client → ActsOn client server account) ↔
        parseI64 name = none ∧ IsSegment (utf8 name)) := by
  constructor
  · intro accounts created account member
    exact actsOn_iff_standsFor empty addresses created member
  · intro name trimmed nonempty isText
    constructor
    · intro each
      have stands : ∀ serial : Int, 0 < serial ∧ serial < 2 ^ 63 → StandsFor ⟨serial, name, true⟩ := by
        intro serial drawn
        obtain ⟨accounts, created, member⟩ := Created.alone drawn trimmed nonempty isText
        exact (actsOn_iff_standsFor empty addresses created member).mp (each accounts created _ member rfl)
      have first := stands 1 (by decide)
      have second := stands 2 (by decide)
      rw [StandsFor] at first second
      cases numbered : parseI64 name with
      | some number =>
          simp only [numbered] at first second
          omega
      | none =>
          simp only [numbered] at first second
          rcases first with segment | refers
          · exact ⟨rfl, segment⟩
          · rcases second with segment | refers'
            · exact ⟨rfl, segment⟩
            · rw [refers] at refers'
              cases refers'
    · rintro ⟨unnumbered, segment⟩ accounts created account member rfl
      refine (actsOn_iff_standsFor empty addresses created member).mpr ?_
      rw [StandsFor, unnumbered]
      exact .inl segment

end Accounts

def localCtl : ApiClient Bytes := .new anyHost (fun _ => none) "http://localhost:19324/" "token"

/-- Three accounts, the first of which is named like the ID of the second. -/
def threeAccounts : Table Account :=
  (createAccount (createAccount (createAccount .empty 1 "2").1 2 " Ann Lee").1 3 "Ann Lee?").1

theorem created_threeAccounts : Created threeAccounts :=
  .create (.create (.create .none "2" (by decide)) " Ann Lee" (by decide)) "Ann Lee?" (by decide +kernel)

theorem rows_threeAccounts :
    threeAccounts.rows = [⟨1, "2", true⟩, ⟨2, "Ann Lee", true⟩, ⟨3, "Ann Lee?", true⟩] := by decide +kernel

theorem addresses_localCtl : Addresses localCtl where
  url := by decide +kernel
  plain := by decide +kernel
  root := by decide +kernel
  token := by decide +kernel

theorem acts_on_ann :
    (∀ server : Server, server.accounts = threeAccounts → Admits server localCtl →
      ActsOn localCtl server ⟨2, "Ann Lee", true⟩) ∧
    ∀ accounts, Created accounts → ∀ account ∈ accounts, account.name = "Ann Lee" →
      ∀ server : Server, server.accounts = accounts → Admits server localCtl → ActsOn localCtl server account := by
  obtain ⟨each, every⟩ := account_names_iff rfl addresses_localCtl
  have member : ⟨2, "Ann Lee", true⟩ ∈ threeAccounts := Table.mem_def.mpr (by simp [rows_threeAccounts])
  have segment : IsSegment (utf8 "Ann Lee") :=
    ⟨by decide +kernel, by decide +kernel, by decide +kernel, by decide +kernel⟩
  constructor
  · exact (each threeAccounts created_threeAccounts _ member).mpr (.inl segment)
  · exact (every "Ann Lee" (by decide) (by decide) (by decide)).mpr ⟨rfl, segment⟩

theorem eq_ok_of_toOption {result : Except ε α} {value : α} (some : result.toOption = some value) : result = .ok value := by
  cases result with
  | ok _ => exact congrArg Except.ok (Option.some.inj some)
  | error _ => cases some

/-- A deposit for the first account and a withdrawal from the third are the second one's. -/
theorem another_account_is_charged :
    Created threeAccounts ∧
    (⟨1, "2", true⟩ ∈ threeAccounts ∧ ¬ActsOn localCtl (accountServer threeAccounts) ⟨1, "2", true⟩ ∧
      handleWallet (.deposit "2" "10" "r-1") localCtl (accountServer threeAccounts) =
        .ok (.post "/deposits" 2 "r-1" "10")) ∧
    ⟨3, "Ann Lee?", true⟩ ∈ threeAccounts ∧
      handleWallet (.withdraw "Ann Lee?" "10" "r-2") localCtl (accountServer threeAccounts) =
        .ok (.post "/withdrawals" 2 "r-2" "10") := by
  refine ⟨created_threeAccounts, ⟨?_, fun acts => ?_, rfl⟩, ?_, eq_ok_of_toOption (by decide +kernel)⟩
  · exact Table.mem_def.mpr (by simp [rows_threeAccounts])
  · cases acts.resolved
  · exact Table.mem_def.mpr (by simp [rows_threeAccounts])

end LLMPool.Ctl
