import Mathlib.Data.List.Induction
import QuestionBoard.Proofs.OrderedMap
import QuestionBoard.Settings.Merge

/-!
Objects laid over one another, read by paths of keys. An object hides a path if it has a value at its
end, or something that is no object on the way there. A value that is no object stands at the end of a
path of `Json.layered` exactly if some layer has it there and no later one hides the path.
-/

namespace QuestionBoard

namespace Json

/-! ### Paths of keys -/

def isObject : Json → Bool
  | .object _ => true
  | _ => false

/-- The value at the end of a path of keys. -/
def at? : List Text → Json → Option Json
  | [], data => some data
  | key :: rest, data => (data.get? key).bind (at? rest)

/-- Whether data have a value at the end of a path, or one that is no object before its end. -/
def Hides (data : Json) (path : List Text) : Prop :=
  (data.at? path).isSome ∨
    ∃ start value, start <+: path ∧ start ≠ path ∧ data.at? start = some value ∧ value.isObject = false

/-- Whether every object that keys lead to has each of its keys once. -/
inductive Keyed : Json → Prop
  | object {entries : List (Text × Json)} (nodup : (entries.map Prod.fst).Nodup)
      (values : ∀ entry ∈ entries, Keyed entry.2) : Keyed (.object entries)
  | other {data : Json} (h : data.isObject = false) : Keyed data

/-- Whether data are an object that has each of its keys once, and so have the objects in it. -/
structure IsMapping (data : Json) : Prop where
  isObject : data.isObject = true
  keyed : data.Keyed

variable {data lower upper value : Json} {key : Text} {path : List Text}

theorem Keyed.get? (h : data.Keyed) (hget : data.get? key = some value) : value.Keyed := by
  cases h with
  | object nodup values => exact values _ (mem_of_lookup hget)
  | other h =>
      cases data with
      | object entries => cases h
      | _ => cases hget

theorem get?_of_isObject_eq_false (h : data.isObject = false) : data.get? key = none := by
  cases data with
  | object entries => cases h
  | _ => rfl

/-- What hides a path that starts with a key is no object, or hides the rest of it under the key. -/
theorem hides_cons_iff : data.Hides (key :: path) ↔
    data.isObject = false ∨ ∃ value, data.get? key = some value ∧ value.Hides path := by
  constructor
  · rintro (hsome | ⟨start, value, hstart, hne, hvalue, hobject⟩)
    · cases hget : data.get? key with
      | none => simp [at?, hget] at hsome
      | some inner => exact Or.inr ⟨inner, rfl, Or.inl (by simpa [at?, hget] using hsome)⟩
    · cases start with
      | nil =>
          obtain rfl : data = value := Option.some.inj hvalue
          exact Or.inl hobject
      | cons first rest =>
          obtain ⟨rfl, hrest⟩ := List.cons_prefix_cons.mp hstart
          obtain ⟨inner, hget, hinner⟩ := Option.bind_eq_some_iff.mp hvalue
          exact Or.inr ⟨inner, hget, Or.inr
            ⟨rest, value, hrest, fun heq => hne (congrArg (first :: ·) heq), hinner, hobject⟩⟩
  · rintro (hobject | ⟨inner, hget, hsome | ⟨start, value, hstart, hne, hvalue, hobject⟩⟩)
    · exact Or.inr ⟨[], data, List.nil_prefix, (List.cons_ne_nil key path).symm, rfl, hobject⟩
    · exact Or.inl (by simpa [at?, hget] using hsome)
    · refine Or.inr ⟨key :: start, value, List.cons_prefix_cons.mpr ⟨rfl, hstart⟩, ?_, ?_, hobject⟩
      · exact fun heq => hne (List.cons.inj heq).2
      · simpa [at?, hget] using hvalue

/-- Whether a path is hidden can be computed. -/
instance instDecidableHides : (data : Json) → (path : List Text) → Decidable (data.Hides path)
  | _, [] => isTrue (Or.inl rfl)
  | data, key :: rest =>
    match hget : data.get? key with
    | none => decidable_of_iff (data.isObject = false) (by simp [hides_cons_iff, hget])
    | some inner =>
      have := instDecidableHides inner rest
      decidable_of_iff (data.isObject = false ∨ inner.Hides rest) (by simp [hides_cons_iff, hget])

/-! ### One object over another -/

/-- What merged entries have at a key: the upper value laid over the lower one, or the lower one. -/
theorem lookup_mergedEntries {upper : List (Text × Json)} (h : (upper.map Prod.fst).Nodup)
    (lower : List (Text × Json)) (key : Text) :
    (mergedEntries lower upper).lookup key =
      match upper.lookup key with
      | some value => some (laidOver (lower.lookup key) value)
      | none => lower.lookup key := by
  induction upper generalizing lower with
  | nil => rw [mergedEntries, List.lookup_nil]
  | cons entry rest ih =>
      obtain ⟨first, value⟩ := entry
      obtain ⟨hfirst, hrest⟩ := List.nodup_cons.mp h
      rw [mergedEntries, ih hrest, lookup_insertEntry, lookup_cons]
      by_cases hkey : key = first
      · subst hkey
        rw [lookup_eq_none_of_not_mem hfirst, if_pos rfl, if_pos rfl]
      · rw [if_neg hkey, if_neg hkey]

/-- Where both values are objects, each key is settled by the two values under it. -/
theorem get?_laidOver (hlower : lower.isObject = true) (hupper : upper.isObject = true)
    (hkeyed : upper.Keyed) (key : Text) :
    (laidOver (some lower) upper).get? key =
      match upper.get? key with
      | some value => some (laidOver (lower.get? key) value)
      | none => lower.get? key := by
  cases upper with
  | object entries =>
      cases lower with
      | object under =>
          cases hkeyed with
          | object nodup values => exact lookup_mergedEntries nodup under key
          | other h => cases h
      | _ => cases hlower
  | _ => cases hupper

/-- Elsewhere the upper value stands as it is. -/
theorem laidOver_eq {lower : Option Json}
    (h : upper.isObject = false ∨ ∀ data, lower = some data → data.isObject = false) :
    laidOver lower upper = upper := by
  cases upper with
  | object entries =>
      rcases h with h | h
      · cases h
      · cases lower with
        | none => rfl
        | some data =>
            cases data with
            | object under => cases h _ rfl
            | _ => rfl
  | _ => rfl

theorem isObject_laidOver (lower : Option Json) (h : upper.isObject = true) :
    (laidOver lower upper).isObject = true := by
  by_cases hlower : ∀ data, lower = some data → data.isObject = false
  · rw [laidOver_eq (Or.inr hlower)]
    exact h
  · push Not at hlower
    obtain ⟨data, rfl, hdata⟩ := hlower
    cases upper with
    | object entries =>
        cases data with
        | object under => rfl
        | _ => exact absurd rfl hdata
    | _ => cases h

/-- A value that is no object stands at a path of a value laid over another if the upper one has it
there, or if the lower one has it and the upper one does not hide it. -/
theorem at?_laidOver_iff (hkeyed : upper.Keyed) (hvalue : value.isObject = false) {lower : Option Json} :
    (laidOver lower upper).at? path = some value ↔
      upper.at? path = some value ∨ lower.bind (at? path) = some value ∧ ¬upper.Hides path := by
  induction path generalizing upper lower with
  | nil =>
      -- At the end of the path the upper value stands, unless both are objects, and then so is this.
      have hhides : upper.Hides [] := Or.inl rfl
      by_cases hupper : upper.isObject = true
      · have hne : ∀ data : Json, data.isObject = true → data.at? [] ≠ some value := by
          rintro data hdata heq
          rw [Option.some.inj heq, hvalue] at hdata
          cases hdata
        simp [hne _ (isObject_laidOver lower hupper), hne _ hupper, hhides]
      · rw [laidOver_eq (Or.inl (by simpa using hupper))]
        simp [hhides]
  | cons key rest ih =>
      by_cases hboth : upper.isObject = true ∧ ∃ data, lower = some data ∧ data.isObject = true
      · obtain ⟨hupper, data, rfl, hdata⟩ := hboth
        have hhides : upper.Hides (key :: rest) ↔ ∃ value, upper.get? key = some value ∧ value.Hides rest := by
          rw [hides_cons_iff, hupper]
          simp
        rw [at?, get?_laidOver hdata hupper hkeyed, hhides, at?, Option.bind_some, at?]
        cases hget : upper.get? key with
        | none => simp
        | some inner => simpa using ih (hkeyed.get? hget)
      · -- Either the upper value hides every path, or the lower one has nothing under a key.
        have hlower : upper.isObject = false ∨ ∀ data, lower = some data → data.isObject = false := by
          by_cases hupper : upper.isObject = true
          · refine Or.inr fun data hdata => ?_
            simpa using fun hobject => hboth ⟨hupper, data, hdata, hobject⟩
          · exact Or.inl (by simpa using hupper)
        rw [laidOver_eq hlower]
        refine ⟨Or.inl, ?_⟩
        rintro (hstands | ⟨hbelow, hopen⟩)
        · exact hstands
        · rcases hlower with hupper | hdata
          · exact absurd (hides_cons_iff.mpr (Or.inl hupper)) hopen
          · obtain ⟨data, rfl, hat⟩ := Option.bind_eq_some_iff.mp hbelow
            rw [at?, get?_of_isObject_eq_false (hdata data rfl)] at hat
            cases hat

/-! ### All layers -/

@[simp] theorem layered_concat (layers : List Json) (layer : Json) :
    layered (layers ++ [layer]) = merge (layered layers) layer := by
  simp only [layered, List.foldl_append, List.foldl_cons, List.foldl_nil]

/-- A value that is no object stands at the end of a path of keys exactly if a layer has it there, and
no later layer has any value there or one that is no object on the way. -/
theorem at?_layered_iff {layers : List Json} (h : ∀ layer ∈ layers, layer.IsMapping)
    (path : List Text) (hvalue : value.isObject = false) :
    (layered layers).at? path = some value ↔
      ∃ before layer after, layers = before ++ layer :: after ∧ layer.at? path = some value ∧
        ∀ later ∈ after, ¬later.Hides path := by
  induction layers using List.reverseRecOn with
  | nil =>
      refine ⟨fun hat => ?_, fun ⟨before, layer, after, hnil, _⟩ => by simp at hnil⟩
      cases path with
      | nil =>
          obtain rfl : object [] = value := Option.some.inj hat
          cases hvalue
      | cons key rest => cases hat
  | append_singleton layers last ih =>
      have hlast : last.IsMapping := h last (by simp)
      have ih := ih fun layer hlayer => h layer (List.mem_append_left _ hlayer)
      rw [layered_concat, merge, at?_laidOver_iff hlast.keyed hvalue, Option.bind_some, ih]
      constructor
      · rintro (hat | ⟨⟨before, layer, after, rfl, hat, hopen⟩, hlastOpen⟩)
        · exact ⟨layers, last, [], rfl, hat, by simp⟩
        · refine ⟨before, layer, after ++ [last], by simp, hat, fun later hlater => ?_⟩
          rcases List.mem_append.mp hlater with hlater | hlater
          · exact hopen later hlater
          · rw [List.mem_singleton.mp hlater]
            exact hlastOpen
      · rintro ⟨before, layer, after, heq, hat, hopen⟩
        obtain rfl | ⟨init, final, hafter⟩ := List.eq_nil_or_concat after
        · obtain ⟨-, hlayer⟩ := List.append_inj' heq rfl
          rw [List.singleton_inj.mp hlayer]
          exact Or.inl hat
        · rw [List.concat_eq_append] at hafter
          subst hafter
          have heq : layers ++ [last] = (before ++ layer :: init) ++ [final] := by simpa using heq
          obtain ⟨hlayers, hfinal⟩ := List.append_inj' heq rfl
          rw [List.singleton_inj.mp hfinal]
          exact Or.inr ⟨⟨before, layer, init, hlayers, hat, fun later hlater =>
            hopen later (List.mem_append_left _ hlater)⟩, hopen final (by simp)⟩

/-- A section, of which a second layer takes a key away, and another one, in the place of which it has
a text, so that the third layer begins it anew. -/
def overlaid : List Json :=
  [.object [("server", .object [("host", .text "board"), ("port", .int 1)]),
      ("log", .object [("level", .text "INFO")])],
    .object [("server", .object [("port", .null)]), ("log", .text "quiet")],
    .object [("log", .object [("use_json", .bool true)])]]

/-- The first section has the host of the first layer and the null of the second one; the level is
gone. -/
theorem at?_layered_overlaid : (∀ layer ∈ overlaid, layer.IsMapping) ∧
    (layered overlaid).at? ["server", "host"] = some (.text "board") ∧
    (layered overlaid).at? ["server", "port"] = some .null ∧
    (layered overlaid).at? ["log", "level"] ≠ some (.text "INFO") := by
  have h : ∀ layer ∈ overlaid, layer.IsMapping := by
    have hflat : ∀ entries : List (Text × Json), (entries.map Prod.fst).Nodup →
        (∀ entry ∈ entries, entry.2.isObject = false) → (object entries).Keyed :=
      fun entries nodup hvalues => .object nodup fun entry hentry => .other (hvalues entry hentry)
    simp only [overlaid, List.forall_mem_cons, List.not_mem_nil, false_imp_iff, implies_true, and_true]
    refine ⟨⟨rfl, .object (by decide) ?_⟩, ⟨rfl, .object (by decide) ?_⟩, ⟨rfl, .object (by decide) ?_⟩⟩
    · simp only [List.forall_mem_cons, List.not_mem_nil, false_imp_iff, implies_true, and_true]
      exact ⟨hflat _ (by decide) (by decide), hflat _ (by decide) (by decide)⟩
    · simp only [List.forall_mem_cons, List.not_mem_nil, false_imp_iff, implies_true, and_true]
      exact ⟨hflat _ (by decide) (by decide), .other rfl⟩
    · simp only [List.forall_mem_cons, List.not_mem_nil, false_imp_iff, implies_true, and_true]
      exact hflat _ (by decide) (by decide)
  refine ⟨h, ?_, ?_, ?_⟩
  · exact (at?_layered_iff h _ rfl).mpr ⟨[], _, _, rfl, rfl, by decide⟩
  · exact (at?_layered_iff h _ rfl).mpr ⟨[_], _, _, rfl, rfl, by decide⟩
  · intro hat
    obtain ⟨before, layer, after, hlayers, hlayer, hopen⟩ := (at?_layered_iff h _ rfl).mp hat
    rcases before with _ | ⟨_, _ | ⟨_, _ | ⟨_, _⟩⟩⟩
    · obtain ⟨rfl, rfl⟩ := List.cons.inj hlayers
      exact hopen _ List.mem_cons_self (by decide)
    · obtain ⟨-, hrest⟩ := List.cons.inj hlayers
      obtain ⟨rfl, -⟩ := List.cons.inj hrest
      cases hlayer
    · obtain ⟨-, hrest⟩ := List.cons.inj hlayers
      obtain ⟨-, hrest⟩ := List.cons.inj hrest
      obtain ⟨rfl, -⟩ := List.cons.inj hrest
      cases hlayer
    · simp [overlaid] at hlayers

end Json

end QuestionBoard
