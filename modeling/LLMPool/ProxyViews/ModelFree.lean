import LLMPool.ProxyViews.AnthropicObjects

/-! The selection of a client for no model: it asks for the models whose short name is
empty, and no model has one. -/
namespace LLMPool.ProxyViews
open Relational Transactions

/-- The first `/` of the name is its last character. -/
def endsInFirstSlash (fullname : String) : Bool := fullname.toList.dropWhile (fun c => c ≠ '/') = ['/']

theorem deriveCname_eq_empty {fullname : String} :
    deriveCname fullname = "" ↔ fullname = "" ∨ endsInFirstSlash fullname = true := by
  have head : ∀ c rest, fullname.toList.dropWhile (fun c => c ≠ '/') = c :: rest → c = '/' := by
    intro c rest found
    have first := List.head?_dropWhile_not (fun c => decide (c ≠ '/')) fullname.toList
    rw [found] at first
    simpa using first
  unfold deriveCname endsInFirstSlash
  cases found : fullname.toList.dropWhile (fun c => c ≠ '/') with
  | nil => simp
  | cons c rest =>
      have slash := head c rest found
      subst slash
      have full : fullname ≠ "" := by
        rintro rfl
        cases found
      simp [full]

/-- The rows as the admin API writes them: every short name is derived, and none is empty. -/
structure Named (db : Db) : Prop where
  derived : ∀ m ∈ db.models, m.cname = deriveCname m.fullname
  nonempty : ∀ m ∈ db.models, m.fullname ≠ ""
  proper : ∀ m ∈ db.models, endsInFirstSlash m.fullname = false

theorem Named.candidates {db : Db} (named : Named db) (provider feature : String) :
    candidates db "" provider feature = [] := by
  refine List.eq_nil_iff_forall_not_mem.mpr ?_
  rintro ⟨m, u⟩ member
  have offered := mem_candidates.mp member
  have empty := (named.derived m offered.model).symm.trans offered.named
  rcases deriveCname_eq_empty.mp empty with none | slash
  · exact named.nonempty m offered.model none
  · rw [named.proper m offered.model] at slash
    cases slash

section Runs
variable {faults : Op engine → Prop} {m m' : Solo engine}

theorem yields_selectAnthropicClients_nameless (named : Named m.db) (libraries : ClientLibraries) (count : Nat) :
    (selectAnthropicClients libraries "" count).yields faults (fun clients _ => clients = some []) m := by
  refine yields_bind.mpr (yields_pooled (E := engine) ?_ ?_ ?_)
  · rintro env rows _ executed
    have none : rows = [] := by
      cases executed
      rw [named.candidates]
      rfl
    subst none
    exact rfl
  · exact fun _ => rfl
  · exact fun _ => rfl

theorem yields_withAnthropicClient_nameless (named : Named m.db) (context : RequestContext)
    (unavailable : String) (next : UpstreamClient → Action (Reply α)) :
    (withAnthropicClient context "" unavailable next).yields faults (fun reply _ =>
      reply = .error .serviceUnavailable [.string unavailable] "overloaded_error" none) m := by
  refine yields_bind.mpr (yields_mono ?_ (yields_selectAnthropicClients_nameless named context.libraries 1))
  rintro _ m' rfl
  exact rfl

/-- Whatever the rows are, no client is found for no model, and the request is refused. -/
theorem no_client_without_a_model (named : Named m.db) :
    (∀ libraries count clients m', (selectAnthropicClients libraries "" count).Runs faults m clients m' →
        clients = some []) ∧
      ∀ (α : Type) (context : RequestContext) (unavailable : String) (next : UpstreamClient → Action (Reply α))
        (reply : Reply α) m', (withAnthropicClient context "" unavailable next).Runs faults m reply m' →
          reply = .error .serviceUnavailable [.string unavailable] "overloaded_error" none :=
  ⟨fun libraries count _ _ runs => runs.yields (yields_selectAnthropicClients_nameless named libraries count),
    fun _ context unavailable next _ _ runs =>
      runs.yields (yields_withAnthropicClient_nameless named context unavailable next)⟩

end Runs

def claude : LLMModel :=
  ⟨1, 1, "anthropic/claude", "claude", true, [featureMessages], 100000, 1, 2, 1, 1, ""⟩

def anthropicUpstream : LLMUpstream := ⟨1, "anthropic", "https://a", "", "anthropic", [], [], "online", ""⟩

/-- An online upstream with an active model that has been used in this hour. -/
def offersClaude : Solo engine :=
  ⟨[], { Db.empty with models := Table.empty.insert claude, upstreams := Table.empty.insert anthropicUpstream },
    { World.empty with tokenUsage := [(0, 1, 1, 7)] }⟩

theorem named_offersClaude : Named offersClaude.db := by
  constructor <;> rintro m (_ | ⟨_, ⟨⟩⟩) <;> decide

theorem offered_claude :
    Offered offersClaude.db "claude" "anthropic" featureMessages claude anthropicUpstream :=
  mem_candidates.mp (by decide +kernel)

/-- The run of the selection alone. -/
theorem runs_offersClaude :
    ∃ m', (selectAnthropicClients .direct "" 1).Runs (fun _ => False) offersClaude (some []) m' := by
  have ran : ∃ m', (selectAnthropicClients .direct "" 1).alone (Env.plain 0 1) offersClaude = some (some [], m') :=
    ⟨_, rfl⟩
  obtain ⟨m', ran⟩ := ran
  exact ⟨m', runs_of_alone ran⟩

theorem an_available_upstream_is_not_found :
    ¬ ∀ (libraries : ClientLibraries) (m : Solo engine) clients m', Named m.db →
      (∃ model upstream, Offered m.db model.cname "anthropic" featureMessages model upstream) →
      (selectAnthropicClients libraries "" 1).Runs (fun _ => False) m clients m' → clients ≠ some [] := by
  intro found
  obtain ⟨m', ran⟩ := runs_offersClaude
  exact found .direct offersClaude (some []) m' named_offersClaude ⟨claude, anthropicUpstream, offered_claude⟩ ran rfl

theorem no_client_without_a_model_claude :
    (∃ m', (selectAnthropicClients .direct "" 1).Runs (fun _ => False) offersClaude (some []) m') ∧
      ∀ libraries count clients m',
        (selectAnthropicClients libraries "" count).Runs (fun _ => False) offersClaude clients m' →
          clients = some [] :=
  ⟨runs_offersClaude, (no_client_without_a_model named_offersClaude).1⟩

end LLMPool.ProxyViews
