import LLMPool.Secrets.Panics
import LLMPool.Secrets.Survival

/-! The listing of models in the command line tool: its texts are cut at a number of bytes,
and where one of them splits a character, nothing is listed. -/
namespace LLMPool.Ctl
open Secrets

/-- A text of more than `maxLen` bytes loses what is behind them; a slice that splits a character
panics, and so does a limit of zero that is decreased. -/
def truncate (s : String) (maxLen : Nat) : Option String :=
  if maxLen < lengthInBytes s.toList then
    if maxLen = 0 then none
    else do
      let (first, _) ← splitBytes (maxLen - 1) s.toList
      return String.ofList first ++ "…"
  else some s

/-- A text with blanks behind it, up to a number of characters. -/
def padded (width : Nat) (text : String) : String :=
  text ++ String.ofList (List.replicate (width - text.length) ' ')

structure ModelResponse where
  id : Int
  upstreamId : Int
  fullname : String
  features : List String
  inputTokenPrice : String
  outputTokenPrice : String
  description : String

def columns (id upstreamId fullname features inputPrice outputPrice description : String) : String :=
  " ".intercalate [padded 5 id, padded 10 upstreamId, padded 35 fullname, padded 30 features,
    padded 14 inputPrice, padded 14 outputPrice, padded 20 description]

def modelLine (m : ModelResponse) : Option String := do
  let fullname ← truncate m.fullname 33
  let features ← truncate (",".intercalate m.features) 28
  let inputPrice ← truncate m.inputTokenPrice 12
  let outputPrice ← truncate m.outputTokenPrice 12
  let description ← truncate m.description 18
  return columns (toString m.id) (toString m.upstreamId) fullname features inputPrice outputPrice description

/-- The lines that are printed; without them the tool panics. -/
def printModels (models : List ModelResponse) : Option (List String) :=
  if models = [] then some ["No models found."]
  else do
    let lines ← models.mapM modelLine
    return columns "ID" "EP ID" "Model ID" "Features" "Input Price" "Output Price" "Description" ::
      String.ofList (List.replicate 128 '-') :: lines

/-- A text is short, or has no character that the last of the bytes that are kept splits. -/
def Cuttable (maxLen : Nat) (s : String) : Prop :=
  lengthInBytes s.toList ≤ maxLen ∨ Boundary (maxLen - 1) s.toList

/-- The text itself where it is short enough, and otherwise some of its first characters with
an ellipsis. -/
def Shortened (s : String) (maxLen : Nat) (shown : String) : Prop :=
  if lengthInBytes s.toList ≤ maxLen then shown = s
  else ∃ first rest, s = first ++ rest ∧ shown = first ++ "…"

structure Printable (m : ModelResponse) : Prop where
  fullname : Cuttable 33 m.fullname
  features : Cuttable 28 (",".intercalate m.features)
  inputPrice : Cuttable 12 m.inputTokenPrice
  outputPrice : Cuttable 12 m.outputTokenPrice
  description : Cuttable 18 m.description

section Cuts
variable {s : String} {maxLen : Nat}

theorem truncate_short (short : lengthInBytes s.toList ≤ maxLen) : truncate s maxLen = some s := by
  rw [truncate, if_neg (Nat.not_lt.mpr short)]

theorem truncate_long (positive : 1 ≤ maxLen) (long : maxLen < lengthInBytes s.toList) :
    truncate s maxLen =
      (splitBytes (maxLen - 1) s.toList).map (fun (first, _) => String.ofList first ++ "…") := by
  rw [truncate, if_pos long, if_neg (Nat.pos_iff_ne_zero.mp positive)]
  cases splitBytes (maxLen - 1) s.toList <;> rfl

/-- What is shown is the text itself or some of its first characters. -/
theorem shortened_of_truncate {shown : String} (positive : 1 ≤ maxLen) (cut : truncate s maxLen = some shown) :
    Shortened s maxLen shown := by
  rw [Shortened]
  split
  · rename_i short
    rw [truncate_short short] at cut
    exact (Option.some.inj cut).symm
  · rename_i long
    rw [truncate_long positive (Nat.lt_of_not_le long)] at cut
    obtain ⟨⟨first, rest⟩, split, rfl⟩ := Option.map_eq_some_iff.mp cut
    refine ⟨String.ofList first, String.ofList rest, ?_, rfl⟩
    rw [← String.ofList_append, ← (splitBytes_iff.mp split).1, String.ofList_toList]

theorem truncate_isSome (positive : 1 ≤ maxLen) : (truncate s maxLen).isSome ↔ Cuttable maxLen s := by
  by_cases short : lengthInBytes s.toList ≤ maxLen
  · rw [truncate_short short, Cuttable]
    simp only [Option.isSome_some, short, true_or]
  · rw [truncate_long positive (Nat.lt_of_not_le short), Option.isSome_map, splitBytes_isSome, Cuttable]
    simp only [short, false_or]

/-- A text of ASCII characters has a boundary after every byte. -/
theorem cuttable_ascii (ascii : Ascii s) (maxLen : Nat) : Cuttable maxLen s := by
  by_cases short : lengthInBytes s.toList ≤ maxLen
  · exact .inl short
  · rw [lengthInBytes_ascii ascii] at short
    refine .inr (splitBytes_isSome.mp ?_)
    rw [splitBytes_ascii ascii (maxLen - 1) (by omega)]
    rfl

end Cuts

section Listings

theorem truncate_bind {s : String} {maxLen : Nat} {rest : String → Option α} {P : Prop} (positive : 1 ≤ maxLen)
    (follows : ∀ shown, (rest shown).isSome ↔ P) :
    (truncate s maxLen >>= rest).isSome ↔ Cuttable maxLen s ∧ P := by
  rw [← truncate_isSome positive]
  cases truncate s maxLen with
  | none => simp
  | some shown => simpa using follows shown

theorem modelLine_isSome {m : ModelResponse} : (modelLine m).isSome ↔ Printable m := by
  rw [modelLine]
  refine (truncate_bind (by decide) (fun _ => truncate_bind (by decide) (fun _ => truncate_bind (by decide)
    (fun _ => truncate_bind (by decide) (fun _ => truncate_bind (P := True) (by decide)
      (fun _ => iff_of_true rfl trivial)))))).trans ?_
  constructor
  · rintro ⟨fullname, features, inputPrice, outputPrice, description, _⟩
    exact ⟨fullname, features, inputPrice, outputPrice, description⟩
  · intro printable
    exact ⟨printable.fullname, printable.features, printable.inputPrice, printable.outputPrice,
      printable.description, trivial⟩

theorem mapM_isSome {f : α → Option β} {items : List α} :
    (items.mapM f).isSome ↔ ∀ item ∈ items, (f item).isSome := by
  induction items with
  | nil => simp
  | cons item rest ih =>
      rw [List.mapM_cons, List.forall_mem_cons, ← ih]
      cases f item with
      | none => simp
      | some value => cases rest.mapM f <;> simp

theorem printModels_isSome {models : List ModelResponse} :
    (printModels models).isSome ↔ ∀ m ∈ models, Printable m := by
  simp only [← modelLine_isSome]
  rw [← mapM_isSome, printModels]
  split
  · rename_i empty
    subst empty
    simp
  · cases models.mapM modelLine <;> simp

/-- The prices are numerals, so what is listed depends on the other three texts. -/
theorem printable_iff {m : ModelResponse} (inputPrice : Ascii m.inputTokenPrice)
    (outputPrice : Ascii m.outputTokenPrice) :
    Printable m ↔ Cuttable 33 m.fullname ∧ Cuttable 28 (",".intercalate m.features) ∧
      Cuttable 18 m.description := by
  constructor
  · intro printable
    exact ⟨printable.fullname, printable.features, printable.description⟩
  · rintro ⟨fullname, features, description⟩
    exact ⟨fullname, features, cuttable_ascii inputPrice 12, cuttable_ascii outputPrice 12, description⟩

/-- A listing is printed if and only if none of its texts is cut inside a character. -/
theorem listings_printed_iff (models : List ModelResponse) (s : String) (maxLen : Nat) (positive : 1 ≤ maxLen) :
    ((∃ shown, truncate s maxLen = some shown ∧ Shortened s maxLen shown) ↔ Cuttable maxLen s) ∧
    ((∃ lines, printModels models = some lines) ↔ ∀ m ∈ models, Printable m) := by
  constructor
  · rw [← truncate_isSome positive, Option.isSome_iff_exists]
    constructor
    · rintro ⟨shown, cut, _⟩
      exact ⟨shown, cut⟩
    · rintro ⟨shown, cut⟩
      exact ⟨shown, cut, shortened_of_truncate positive cut⟩
  · rw [← printModels_isSome, Option.isSome_iff_exists]

/-- A description of ten characters of two bytes. -/
def accented : ModelResponse where
  id := 1
  upstreamId := 1
  fullname := "gpt-4o"
  features := ["chat_completion"]
  inputTokenPrice := "0.01"
  outputTokenPrice := "0.02"
  description := "éééééééééé"

theorem accented_description_panics :
    truncate accented.description 18 = none ∧ printModels [accented] = none := by
  constructor <;> decide +kernel

theorem listings_printed_boundary :
    (∃ shown, truncate "éé" 3 = some shown ∧ Shortened "éé" 3 shown) ∧
      ∃ lines, printModels [{ accented with description := "éé" }] = some lines := by
  obtain ⟨shortened, printed⟩ :=
    listings_printed_iff [{ accented with description := "éé" }] "éé" 3 (by decide)
  refine ⟨shortened.mpr (.inr ⟨['é'], ['é'], rfl, rfl⟩), printed.mpr (fun m member => ?_)⟩
  cases List.mem_singleton.mp member
  exact ⟨.inl (by decide), .inl (by decide), .inl (by decide), .inl (by decide), .inl (by decide)⟩

end Listings

end LLMPool.Ctl
