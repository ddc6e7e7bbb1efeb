import QuestionBoard.Json.Rewrite
import QuestionBoard.Proofs.Json.Numbers
import QuestionBoard.Proofs.Json.Texts
import QuestionBoard.Proofs.OrderedMap

/-!
Data whose whole numbers can be read are written in printable ASCII characters, on one line or with an indent,
and read back from that text with the texts in them paired. Data whose objects have no key twice come back as
they were just when their texts are separated.
-/

namespace QuestionBoard

namespace Json

/-- Whether no object has a key twice. -/
inductive KeysOnce : Json → Prop
  | null : KeysOnce .null
  | bool (b : Bool) : KeysOnce (.bool b)
  | int (n : Int) : KeysOnce (.int n)
  | float (x : Binary64) : KeysOnce (.float x)
  | text (t : Text) : KeysOnce (.text t)
  | array {items : List Json} (h : ∀ item ∈ items, KeysOnce item) : KeysOnce (.array items)
  | object {entries : List (Text × Json)} (hkeys : (entries.map Prod.fst).Nodup)
      (h : ∀ entry ∈ entries, KeysOnce entry.2) : KeysOnce (.object entries)

/-- Whether a character may stand in a text: a printable one, or the end of a line if there is an indent. -/
def Layout.Shows (layout : Layout) (c : Char) : Prop :=
  match layout.indent with
  | none => IsPrintable c
  | some _ => IsPrintable c ∨ c = '\n'

/-- Whether characters are blanks that may stand in a text. -/
def Layout.Gap (layout : Layout) (gap : List Char) : Prop := ∀ c ∈ gap, isSeparator c = true ∧ layout.Shows c

/-- Whether a text begins as a value does, shows only what its layout may, and is read as a value, whatever
comes after it that could not go on a number. -/
structure ReadsBack (layout : Layout) (cs : List Char) (v : Json) : Prop where
  head : ∃ c cs', cs = c :: cs' ∧ isSeparator c = false ∧ c ≠ ']'
  printable : ∀ c ∈ cs, layout.Shows c
  reads : ∀ fuel rest, 2 * cs.length ≤ fuel → EndsNumber rest → readValue fuel (cs ++ rest) = .ok (v, rest)

variable {cs rest gap close : List Char} {v : Json} {layout : Layout}

theorem Layout.shows_of_isPrintable {c : Char} (h : IsPrintable c) : layout.Shows c := by
  unfold Layout.Shows
  split
  · exact h
  · exact Or.inl h

/-! ### Blanks -/

theorem skipBlanks_cons {c : Char} (hc : isSeparator c = false) (cs : List Char) :
    skipBlanks (c :: cs) = c :: cs := by
  rw [skipBlanks, List.dropWhile_cons, hc]
  rfl

theorem Layout.Gap.skipBlanks_append (h : layout.Gap gap) (cs : List Char) :
    skipBlanks (gap ++ cs) = skipBlanks cs :=
  List.dropWhile_append_of_pos fun c hc => (h c hc).1

theorem Layout.Gap.shows (h : layout.Gap gap) : ∀ c ∈ gap, layout.Shows c := fun c hc => (h c hc).2

theorem endsNumber_cons {c : Char} (hc : c = ',' ∨ c = ']' ∨ c = '\x7d') (cs : List Char) :
    EndsNumber (c :: cs) := by
  intro d hd
  obtain rfl := Option.some.inj hd
  rcases hc with rfl | rfl | rfl <;> decide

theorem endsNumber_of_isSeparator {c : Char} (hc : isSeparator c = true) (cs : List Char) :
    EndsNumber (c :: cs) := by
  intro d hd
  obtain rfl := Option.some.inj hd
  simp only [isSeparator, Bool.or_eq_true, beq_iff_eq] at hc
  rcases hc with ((rfl | rfl) | rfl) | rfl <;> decide

theorem Layout.Gap.endsNumber (h : layout.Gap gap) (hrest : EndsNumber rest) : EndsNumber (gap ++ rest) := by
  cases gap with
  | nil => exact hrest
  | cons c cs => exact endsNumber_of_isSeparator (h c List.mem_cons_self).1 (cs ++ rest)

theorem ReadsBack.skipBlanks_append (h : ReadsBack layout cs v) (rest : List Char) :
    skipBlanks (cs ++ rest) = cs ++ rest := by
  obtain ⟨c, cs', rfl, hc, -⟩ := h.head
  exact skipBlanks_cons hc (cs' ++ rest)

/-! ### Scalars and strings -/

theorem SpellsScalar.readsBack (h : SpellsScalar cs v) : ReadsBack layout cs v := by
  obtain ⟨c, cs', rfl, hc⟩ := h.head
  have hne : ∀ d : Char, ¬(d.isAlphanum = true ∨ d = '-') → c ≠ d := fun d hd he => hd (he ▸ hc)
  refine ⟨⟨c, cs', rfl, ?_, hne ']' (by decide)⟩, fun d hd => Layout.shows_of_isPrintable (h.printable d hd),
    fun fuel rest hfuel hrest => ?_⟩
  · simp only [isSeparator, beq_false_of_ne (hne ' ' (by decide)), beq_false_of_ne (hne '\t' (by decide)),
      beq_false_of_ne (hne '\n' (by decide)), beq_false_of_ne (hne '\r' (by decide)), Bool.or_false]
  · rw [List.length_cons] at hfuel
    obtain ⟨fuel, rfl⟩ : ∃ f, fuel = f + 1 := ⟨fuel - 1, by omega⟩
    rw [List.cons_append, readValue]
    · exact h.reads rest hrest
    · exact fun _ he => hne '"' (by decide) (List.cons.inj he).1
    · exact fun _ he => hne '[' (by decide) (List.cons.inj he).1
    · exact fun _ he => hne '\x7b' (by decide) (List.cons.inj he).1

theorem readsBack_text (t : Text) : ReadsBack layout (stringText t).toList (.text t.paired) := by
  refine ⟨⟨_, _, toList_stringText t, by decide, by decide⟩,
    fun c hc => Layout.shows_of_isPrintable (isPrintable_stringText t c hc), fun fuel rest hfuel _ => ?_⟩
  rw [toList_stringText] at hfuel ⊢
  rw [List.length_cons] at hfuel
  obtain ⟨fuel, rfl⟩ : ∃ f, fuel = f + 1 := ⟨fuel - 1, by omega⟩
  rw [List.cons_append, List.append_assoc, List.singleton_append, readValue, readString_escapedPoints]
  rfl

/-! ### Items and entries -/

/-- Parts with a comma and blanks between them. -/
def listed (gap : List Char) (parts : List (List Char)) : List Char := (',' :: gap).intercalate parts

theorem listed_singleton (part : List Char) : listed gap [part] = part := List.intercalate_singleton

theorem listed_cons_cons (part part' : List Char) (parts : List (List Char)) :
    listed gap (part :: part' :: parts) = part ++ ',' :: (gap ++ listed gap (part' :: parts)) := by
  rw [listed, List.intercalate_cons_cons, List.append_assoc]
  rfl

theorem exists_listed_cons (c : Char) (cs : List Char) (parts : List (List Char)) :
    ∃ cs', listed gap ((c :: cs) :: parts) = c :: cs' := by
  cases parts with
  | nil => exact ⟨cs, listed_singleton (c :: cs)⟩
  | cons part parts => exact ⟨_, listed_cons_cons (c :: cs) part parts⟩

theorem shows_listed {parts : List (List Char)} (hgap : layout.Gap gap)
    (h : ∀ part ∈ parts, ∀ c ∈ part, layout.Shows c) : ∀ c ∈ listed gap parts, layout.Shows c := by
  have hcomma : layout.Shows ',' := Layout.shows_of_isPrintable (by decide)
  induction parts with
  | nil => exact fun c hc => absurd hc List.not_mem_nil
  | cons part parts ih =>
      rw [List.forall_mem_cons] at h
      cases parts with
      | nil =>
          rw [listed_singleton]
          exact h.1
      | cons part' parts =>
          rw [listed_cons_cons]
          simp only [List.forall_mem_append, List.forall_mem_cons]
          exact ⟨h.1, hcomma, hgap.shows, ih h.2⟩

theorem readItems_gap (hgap : layout.Gap gap) (fuel : Nat) (cs : List Char) :
    readItems fuel (gap ++ cs) = readItems fuel cs := by
  cases fuel with
  | zero => rfl
  | succ fuel => rw [readItems, readItems, hgap.skipBlanks_append]

theorem readEntries_gap (hgap : layout.Gap gap) (fuel : Nat) (cs : List Char) :
    readEntries fuel (gap ++ cs) = readEntries fuel cs := by
  cases fuel with
  | zero => rfl
  | succ fuel => rw [readEntries, readEntries, hgap.skipBlanks_append]

/-- Items that are read back are read from the list of their texts. -/
theorem readItems_listed {write : Json → List Char} {items : List Json} (hgap : layout.Gap gap)
    (hclose : layout.Gap close) (hne : items ≠ [])
    (h : ∀ item ∈ items, ReadsBack layout (write item) item.paired)
    {fuel : Nat} (hfuel : 2 * (listed gap (items.map write)).length + 1 ≤ fuel) (rest : List Char) :
    readItems fuel (listed gap (items.map write) ++ (close ++ ']' :: rest)) =
      .ok (items.map paired, rest) := by
  induction items generalizing fuel with
  | nil => exact absurd rfl hne
  | cons item items ih =>
      rw [List.forall_mem_cons] at h
      obtain ⟨fuel, rfl⟩ : ∃ f, fuel = f + 1 := ⟨fuel - 1, by omega⟩
      cases items with
      | nil =>
          have hends := hclose.endsNumber (endsNumber_cons (Or.inr (Or.inl rfl)) rest)
          rw [List.map_cons, List.map_nil, listed_singleton] at hfuel ⊢
          rw [readItems, h.1.skipBlanks_append, h.1.reads fuel _ (by omega) hends]
          dsimp only [Bind.bind, Except.bind]
          rw [hclose.skipBlanks_append]
          rfl
      | cons item' items =>
          rw [List.map_cons, List.map_cons, listed_cons_cons, ← List.map_cons] at hfuel ⊢
          simp only [List.length_append, List.length_cons] at hfuel
          have hlength : 2 * (listed gap ((item' :: items).map write)).length + 1 ≤ fuel := by omega
          have hitems := ih (List.cons_ne_nil item' items) h.2 hlength
          rw [← readItems_gap hgap] at hitems
          rw [List.append_assoc, List.cons_append, List.append_assoc, readItems, h.1.skipBlanks_append,
            h.1.reads fuel _ (by omega) (endsNumber_cons (Or.inl rfl) _)]
          -- What is left begins with the comma and its blanks.
          change (readItems fuel _ >>= _) = _
          rw [hitems]
          rfl

/-- The text of an entry, by the texts of values. -/
def entryText (write : Json → List Char) (entry : Text × Json) : List Char :=
  (stringText entry.1).toList ++ ':' :: ' ' :: write entry.2

theorem shows_entryText {write : Json → List Char} {entry : Text × Json}
    (h : ∀ c ∈ write entry.2, layout.Shows c) : ∀ c ∈ entryText write entry, layout.Shows c := by
  simp only [entryText, List.forall_mem_append, List.forall_mem_cons]
  exact ⟨fun c hc => Layout.shows_of_isPrintable (isPrintable_stringText entry.1 c hc),
    Layout.shows_of_isPrintable (by decide), Layout.shows_of_isPrintable (by decide), h⟩

def pairedEntry (entry : Text × Json) : Text × Json := (entry.1.paired, entry.2.paired)

/-- An entry before what is read after it. -/
theorem readEntries_entryText {write : Json → List Char} {entry : Text × Json} (hclose : layout.Gap close)
    (h : ReadsBack layout (write entry.2) entry.2.paired) {fuel : Nat}
    (hfuel : 2 * (entryText write entry).length ≤ fuel) (rest : List Char) :
    readEntries (fuel + 1) (entryText write entry ++ (close ++ '\x7d' :: rest)) =
        .ok ([pairedEntry entry], rest) ∧
      ∀ entries rest', readEntries fuel rest = .ok (entries, rest') →
        readEntries (fuel + 1) (entryText write entry ++ ',' :: rest) = .ok (pairedEntry entry :: entries, rest') := by
  have hread : ∀ left, EndsNumber left →
      readValue fuel (skipBlanks (' ' :: (write entry.2 ++ left))) = .ok (entry.2.paired, left) := by
    intro left hleft
    have hblank := h.skipBlanks_append left
    have hlength : 2 * (write entry.2).length ≤ fuel := by
      simp only [entryText, List.length_append, List.length_cons] at hfuel
      omega
    exact (congrArg (readValue fuel) hblank).trans (h.reads fuel left hlength hleft)
  simp only [entryText, toList_stringText, List.cons_append, List.append_assoc, List.nil_append]
  constructor
  · have hends := hclose.endsNumber (endsNumber_cons (Or.inr (Or.inr rfl)) rest)
    rw [readEntries, skipBlanks_cons (by decide)]
    simp only [readString_escapedPoints, skipBlanks_cons (c := ':') (by decide)]
    rw [hread _ hends]
    dsimp only [Bind.bind, Except.bind]
    rw [hclose.skipBlanks_append]
    rfl
  · intro entries rest' hentries
    rw [readEntries, skipBlanks_cons (by decide)]
    simp only [readString_escapedPoints, skipBlanks_cons (c := ':') (by decide)]
    rw [hread _ (endsNumber_cons (Or.inl rfl) rest)]
    change (readEntries fuel rest >>= _) = _
    rw [hentries]
    rfl

/-- Entries that are read back are read from the list of their texts. -/
theorem readEntries_listed {write : Json → List Char} {entries : List (Text × Json)} (hgap : layout.Gap gap)
    (hclose : layout.Gap close) (hne : entries ≠ [])
    (h : ∀ entry ∈ entries, ReadsBack layout (write entry.2) entry.2.paired) {fuel : Nat}
    (hfuel : 2 * (listed gap (entries.map (entryText write))).length + 1 ≤ fuel) (rest : List Char) :
    readEntries fuel (listed gap (entries.map (entryText write)) ++ (close ++ '\x7d' :: rest)) =
      .ok (entries.map pairedEntry, rest) := by
  induction entries generalizing fuel with
  | nil => exact absurd rfl hne
  | cons entry entries ih =>
      rw [List.forall_mem_cons] at h
      obtain ⟨fuel, rfl⟩ : ∃ f, fuel = f + 1 := ⟨fuel - 1, by omega⟩
      cases entries with
      | nil =>
          rw [List.map_cons, List.map_nil, listed_singleton] at hfuel ⊢
          exact (readEntries_entryText hclose h.1 (by omega) rest).1
      | cons entry' entries =>
          rw [List.map_cons, List.map_cons, listed_cons_cons, ← List.map_cons] at hfuel ⊢
          simp only [List.length_append, List.length_cons] at hfuel
          have hlength : 2 * (listed gap ((entry' :: entries).map (entryText write))).length + 1 ≤ fuel := by
            omega
          have hentries := ih (List.cons_ne_nil entry' entries) h.2 hlength
          rw [← readEntries_gap hgap] at hentries
          rw [List.append_assoc, List.cons_append, List.append_assoc]
          exact (readEntries_entryText hclose h.1 (by omega) _).2 _ _ hentries

theorem ofEntries_eq {entries : List (Text × Json)} (h : (entries.map Prod.fst).Nodup) :
    ofEntries entries = .object entries := congrArg Json.object (foldl_insertEntry_of_nodup entries h)

/-- Parts as they stand in their brackets: with blanks before and after them, if there are any. -/
def bracketed (opened gap close : List Char) (parts : List (List Char)) : List Char :=
  if parts.isEmpty then [] else opened ++ (listed gap parts ++ close)

theorem shows_bracketed {opened : List Char} {parts : List (List Char)} (hopened : layout.Gap opened)
    (hgap : layout.Gap gap) (hclose : layout.Gap close) (h : ∀ part ∈ parts, ∀ c ∈ part, layout.Shows c) :
    ∀ c ∈ bracketed opened gap close parts, layout.Shows c := by
  unfold bracketed
  split
  · exact fun c hc => absurd hc List.not_mem_nil
  · simp only [List.forall_mem_append]
    exact ⟨hopened.shows, shows_listed hgap h, hclose.shows⟩

theorem readsBack_array {write : Json → List Char} {items : List Json} {opened : List Char}
    (hopened : layout.Gap opened) (hgap : layout.Gap gap) (hclose : layout.Gap close)
    (h : ∀ item ∈ items, ReadsBack layout (write item) item.paired) :
    ReadsBack layout ('[' :: (bracketed opened gap close (items.map write) ++ [']'])) (.array (items.map paired)) := by
  have hparts : ∀ part ∈ items.map write, ∀ c ∈ part, layout.Shows c := by
    rw [List.forall_mem_map]
    exact fun item hitem => (h item hitem).printable
  refine ⟨⟨_, _, rfl, by decide, by decide⟩, ?_, fun fuel rest hfuel _ => ?_⟩
  · simp only [List.forall_mem_cons, List.forall_mem_append]
    exact ⟨Layout.shows_of_isPrintable (by decide), shows_bracketed hopened hgap hclose hparts,
      Layout.shows_of_isPrintable (by decide), by simp⟩
  · simp only [List.length_cons, List.length_append, List.length_nil] at hfuel
    obtain ⟨fuel, rfl⟩ : ∃ f, fuel = f + 1 := ⟨fuel - 1, by omega⟩
    rw [List.cons_append, List.append_assoc, List.singleton_append, readValue]
    cases items with
    | nil => rfl
    | cons item items =>
        have hbracketed : bracketed opened gap close ((item :: items).map write) =
            opened ++ (listed gap ((item :: items).map write) ++ close) := rfl
        rw [hbracketed] at hfuel ⊢
        simp only [List.length_append] at hfuel
        have hlength : 2 * (listed gap ((item :: items).map write)).length + 1 ≤ fuel := by omega
        obtain ⟨c, cs, hitem, hc, hbracket⟩ := (h item List.mem_cons_self).head
        obtain ⟨cs', hlisted⟩ := exists_listed_cons c cs (items.map write)
        have hitems := readItems_listed hgap hclose (List.cons_ne_nil item items) h hlength rest
        rw [List.append_assoc, List.append_assoc, hopened.skipBlanks_append]
        rw [List.map_cons, hitem, hlisted, List.cons_append] at hitems ⊢
        rw [skipBlanks_cons hc]
        split
        · next heq => exact absurd (List.cons.inj heq).1 hbracket
        · rw [hitems]
          rfl

theorem readsBack_object {write : Json → List Char} {entries : List (Text × Json)} {opened : List Char}
    (hopened : layout.Gap opened) (hgap : layout.Gap gap) (hclose : layout.Gap close)
    (h : ∀ entry ∈ entries, ReadsBack layout (write entry.2) entry.2.paired) :
    ReadsBack layout ('\x7b' :: (bracketed opened gap close (entries.map (entryText write)) ++ ['\x7d']))
      (ofEntries (entries.map pairedEntry)) := by
  have hparts : ∀ part ∈ entries.map (entryText write), ∀ c ∈ part, layout.Shows c := by
    rw [List.forall_mem_map]
    exact fun entry hentry => shows_entryText (h entry hentry).printable
  refine ⟨⟨_, _, rfl, by decide, by decide⟩, ?_, fun fuel rest hfuel _ => ?_⟩
  · simp only [List.forall_mem_cons, List.forall_mem_append]
    exact ⟨Layout.shows_of_isPrintable (by decide), shows_bracketed hopened hgap hclose hparts,
      Layout.shows_of_isPrintable (by decide), by simp⟩
  · simp only [List.length_cons, List.length_append, List.length_nil] at hfuel
    obtain ⟨fuel, rfl⟩ : ∃ f, fuel = f + 1 := ⟨fuel - 1, by omega⟩
    rw [List.cons_append, List.append_assoc, List.singleton_append, readValue]
    cases entries with
    | nil => rfl
    | cons entry entries =>
        have hbracketed : bracketed opened gap close ((entry :: entries).map (entryText write)) =
            opened ++ (listed gap ((entry :: entries).map (entryText write)) ++ close) := rfl
        rw [hbracketed] at hfuel ⊢
        simp only [List.length_append] at hfuel
        have hlength : 2 * (listed gap ((entry :: entries).map (entryText write))).length + 1 ≤ fuel := by omega
        have hentry : ∃ cs, entryText write entry = '"' :: cs := by
          rw [entryText, toList_stringText]
          exact ⟨_, rfl⟩
        obtain ⟨cs, hentry⟩ := hentry
        obtain ⟨cs', hlisted⟩ := exists_listed_cons '"' cs (entries.map (entryText write))
        have hentries := readEntries_listed hgap hclose (List.cons_ne_nil entry entries) h hlength rest
        rw [List.append_assoc, List.append_assoc, hopened.skipBlanks_append]
        rw [List.map_cons, hentry, hlisted, List.cons_append] at hentries ⊢
        rw [skipBlanks_cons (by decide)]
        change (readEntries fuel _ >>= _) = _
        rw [hentries]
        rfl

/-! ### Data -/

theorem writeItems_eq (layout : Layout) (depth : Nat) (items : List Json) :
    writeItems layout depth items = items.map (writeAt layout depth) := by
  induction items with
  | nil => rw [writeItems, List.map_nil]
  | cons item items ih => rw [writeItems, List.map_cons, ih]

theorem writeEntries_eq (layout : Layout) (depth : Nat) (entries : List (Text × Json)) :
    writeEntries layout depth entries =
      entries.map fun entry => stringText entry.1 ++ ": " ++ writeAt layout depth entry.2 := by
  induction entries with
  | nil => rw [writeEntries, List.map_nil]
  | cons entry entries ih => rw [writeEntries, List.map_cons, ih]

theorem Layout.gap_lineStart (layout : Layout) (depth : Nat) : layout.Gap (layout.lineStart depth).toList := by
  obtain ⟨_ | width⟩ := layout
  · exact fun c hc => absurd hc List.not_mem_nil
  · have hline : (lineStart ⟨some width⟩ depth).toList = '\n' :: List.replicate (width * depth) ' ' := by
      show ("\n" ++ String.ofList (List.replicate (width * depth) ' ')).toList = _
      simp only [String.toList_append, String.toList_ofList]
      rfl
    rw [hline, Layout.Gap, List.forall_mem_cons]
    refine ⟨⟨by decide, Or.inr rfl⟩, fun c hc => ?_⟩
    rw [List.eq_of_mem_replicate hc]
    exact ⟨by decide, Or.inl (by decide)⟩

theorem Layout.exists_gap_separator (layout : Layout) (depth : Nat) :
    ∃ gap, (layout.separator depth).toList = ',' :: gap ∧ layout.Gap gap := by
  obtain ⟨_ | width⟩ := layout
  · refine ⟨[' '], show (", ").toList = [',', ' '] by decide, ?_⟩
    rw [Layout.Gap, List.forall_mem_singleton]
    exact ⟨by decide, show IsPrintable ' ' by decide⟩
  · refine ⟨_, ?_, Layout.gap_lineStart ⟨some width⟩ depth⟩
    rw [separator, String.toList_append]
    rfl

/-- Parts stand in their brackets as they are listed, with blanks that the layout has. -/
theorem Layout.exists_enclose (layout : Layout) (depth : Nat) :
    ∃ opened gap close, layout.Gap opened ∧ layout.Gap gap ∧ layout.Gap close ∧
      ∀ (opening closing : String) (parts : List String), (layout.enclose depth opening closing parts).toList =
        opening.toList ++ (bracketed opened gap close (parts.map String.toList) ++ closing.toList) := by
  obtain ⟨gap, hseparator, hgap⟩ := layout.exists_gap_separator (depth + 1)
  refine ⟨_, gap, _, layout.gap_lineStart (depth + 1), hgap, layout.gap_lineStart depth,
    fun opening closing parts => ?_⟩
  cases parts with
  | nil => exact String.toList_append
  | cons part parts =>
      show (opening ++ layout.lineStart (depth + 1) ++ (layout.separator (depth + 1)).intercalate (part :: parts) ++
        layout.lineStart depth ++ closing).toList = opening.toList ++ ((layout.lineStart (depth + 1)).toList ++
          (listed gap ((part :: parts).map String.toList) ++ (layout.lineStart depth).toList) ++ closing.toList)
      simp only [String.toList_append, String.toList_intercalate, hseparator, listed, List.append_assoc]

theorem pairedItems_eq (items : List Json) : pairedItems items = items.map paired := by
  induction items with
  | nil => rw [pairedItems, List.map_nil]
  | cons item items ih => rw [pairedItems, List.map_cons, ih]

theorem pairedEntries_eq (entries : List (Text × Json)) : pairedEntries entries = entries.map pairedEntry := by
  induction entries with
  | nil => rw [pairedEntries, List.map_nil]
  | cons entry entries ih =>
      rw [pairedEntries, List.map_cons, ih]
      rfl

theorem readsBack_enclosedItems {items : List Json} {depth : Nat}
    (h : ∀ item ∈ items, ReadsBack layout (writeAt layout (depth + 1) item).toList item.paired) :
    ReadsBack layout (writeAt layout depth (.array items)).toList (paired (.array items)) := by
  obtain ⟨opened, gap, close, hopened, hgap, hclose, henclose⟩ := layout.exists_enclose depth
  rw [writeAt, henclose, writeItems_eq, List.map_map, paired, pairedItems_eq]
  exact readsBack_array hopened hgap hclose h

theorem readsBack_enclosedEntries {entries : List (Text × Json)} {depth : Nat}
    (h : ∀ entry ∈ entries, ReadsBack layout (writeAt layout (depth + 1) entry.2).toList entry.2.paired) :
    ReadsBack layout (writeAt layout depth (.object entries)).toList (paired (.object entries)) := by
  obtain ⟨opened, gap, close, hopened, hgap, hclose, henclose⟩ := layout.exists_enclose depth
  have htext : (String.toList ∘ fun entry : Text × Json =>
      stringText entry.1 ++ ": " ++ writeAt layout (depth + 1) entry.2) =
        entryText fun v => (writeAt layout (depth + 1) v).toList := by
    funext entry
    simp only [Function.comp_apply, String.toList_append, List.append_assoc, entryText]
    rfl
  rw [writeAt, henclose, writeEntries_eq, List.map_map, htext, paired, pairedEntries_eq]
  exact readsBack_object hopened hgap hclose h

mutual

theorem readsBack_writeAt (layout : Layout) (depth : Nat) (v : Json) (h : v.hasLongInteger = false) :
    ReadsBack layout (writeAt layout depth v).toList v.paired := by
  match v with
  | .null => exact (spellsScalar_word List.mem_cons_self).readsBack
  | .bool b => exact (spellsScalar_bool b).readsBack
  | .int n => exact (spellsScalar_int (Nat.not_lt.mp (of_decide_eq_false h))).readsBack
  | .float x => exact (spellsScalar_float x).readsBack
  | .text t => exact readsBack_text t
  | .array items => exact readsBack_enclosedItems (readsBack_items layout (depth + 1) items h)
  | .object entries => exact readsBack_enclosedEntries (readsBack_entries layout (depth + 1) entries h)

theorem readsBack_items (layout : Layout) (depth : Nat) (items : List Json) (h : anyLongItem items = false) :
    ∀ item ∈ items, ReadsBack layout (writeAt layout depth item).toList item.paired := by
  match items with
  | [] => simp
  | item :: rest =>
      obtain ⟨hitem, hrest⟩ := Bool.or_eq_false_iff.mp h
      exact List.forall_mem_cons.mpr
        ⟨readsBack_writeAt layout depth item hitem, readsBack_items layout depth rest hrest⟩

theorem readsBack_entries (layout : Layout) (depth : Nat) (entries : List (Text × Json))
    (h : anyLongEntry entries = false) :
    ∀ entry ∈ entries, ReadsBack layout (writeAt layout depth entry.2).toList entry.2.paired := by
  match entries with
  | [] => simp
  | (key, value) :: rest =>
      obtain ⟨hvalue, hrest⟩ := Bool.or_eq_false_iff.mp h
      exact List.forall_mem_cons.mpr
        ⟨readsBack_writeAt layout depth value hvalue, readsBack_entries layout depth rest hrest⟩

end

/-- Data are read back, with the texts in them paired, from a text that holds nothing else but blanks after
them. -/
theorem parse_write_append (h : v.hasLongInteger = false) (indent : Option Nat) (after : String)
    (hafter : skipBlanks after.toList = []) (hends : EndsNumber after.toList) :
    parse (write indent v ++ after) = .ok v.paired := by
  have hback : ReadsBack ⟨indent⟩ (write indent v).toList v.paired := readsBack_writeAt _ 0 v h
  have hread := hback.reads (2 * (write indent v ++ after).toList.length + 2) after.toList
    (by rw [String.toList_append, List.length_append]; omega) hends
  have hblank := hback.skipBlanks_append after.toList
  rw [parse, String.toList_append, hblank]
  rw [String.toList_append] at hread
  rw [hread]
  change (if (skipBlanks after.toList).isEmpty then _ else _) = _
  rw [hafter]
  rfl

theorem pairedEntry_eq_self_iff {entry : Text × Json} :
    pairedEntry entry = entry ↔ entry.1.Separated ∧ entry.2.paired = entry.2 := by
  rw [← Text.paired_eq_self_iff]
  exact Prod.ext_iff

/-- Data come back as they were just when no text in them has halves of a character side by side. -/
theorem KeysOnce.paired_eq_self_iff (h : v.KeysOnce) : v.paired = v ↔ v.AllTexts Text.Separated := by
  induction h with
  | null | bool | int | float => simp [paired, AllTexts]
  | text t => rw [paired, Json.text.injEq, AllTexts, Text.paired_eq_self_iff]
  | @array items h ih =>
      have hitems : items.map paired = items ↔ ∀ item ∈ items, item.paired = item := by
        conv_lhs => rw [← List.map_id items, List.map_map, List.map_inj_left]
        rfl
      rw [paired, Json.array.injEq, pairedItems_eq, hitems, AllTexts, allItemTexts_iff]
      exact forall₂_congr ih
  | @object entries hkeys h ih =>
      have hentries : entries.map pairedEntry = entries ↔ ∀ entry ∈ entries, pairedEntry entry = entry := by
        conv_lhs => rw [← List.map_id entries, List.map_map, List.map_inj_left]
        rfl
      have hobject : ofEntries (entries.map pairedEntry) = .object entries ↔ entries.map pairedEntry = entries := by
        constructor
        · intro heq
          exact eq_of_foldl_insertEntry (List.length_map _) hkeys (Json.object.inj heq)
        · intro heq
          rw [heq, ofEntries_eq hkeys]
      rw [paired, pairedEntries_eq, hobject, hentries, AllTexts, allEntryTexts_iff]
      refine forall₂_congr fun entry hentry => ?_
      rw [pairedEntry_eq_self_iff, ih entry hentry]

/-! ### What is read -/

variable {α β : Type}

def ReadsOnly (p : α → Prop) (result : Except ReadError (α × List Char)) : Prop :=
  ∀ value rest, result = .ok (value, rest) → p value

theorem ReadsOnly.bind {p : α → Prop} {q : β → Prop} {result : Except ReadError (α × List Char)}
    {next : α × List Char → Except ReadError (β × List Char)} (h : ReadsOnly p result)
    (hnext : ∀ value rest, p value → ReadsOnly q (next (value, rest))) : ReadsOnly q (result >>= next) := by
  obtain e | ⟨value, rest⟩ := result
  · exact fun _ _ he => nomatch he
  · exact hnext value rest (h value rest rfl)

theorem readsOnly_ok {p : α → Prop} {value : α} (h : p value) (rest : List Char) :
    ReadsOnly p (.ok (value, rest)) := by
  intro value' rest' he
  obtain ⟨rfl, -⟩ := Prod.mk.inj (Except.ok.inj he)
  exact h

theorem readsOnly_error {p : α → Prop} (e : ReadError) : ReadsOnly p (.error e) := fun _ _ he => nomatch he

theorem readsOnly_readNumber (negative : Bool) (cs : List Char) :
    ReadsOnly KeysOnce (readNumber negative cs) := by
  unfold readNumber
  dsimp only
  split
  · exact readsOnly_error _
  · split
    · split
      · exact readsOnly_error _
      · exact readsOnly_ok (.int _) _
    · exact readsOnly_ok (.float _) _

theorem readsOnly_readScalar (cs : List Char) : ReadsOnly KeysOnce (readScalar cs) := by
  unfold readScalar
  dsimp only
  split
  · next found hfound =>
      obtain ⟨⟨word, value⟩, hword, hdrop⟩ := List.exists_of_findSome?_eq_some hfound
      obtain ⟨left, -, rfl⟩ := Option.map_eq_some_iff.mp hdrop
      refine readsOnly_ok ?_ left
      simp only [List.mem_cons, List.not_mem_nil, or_false, Prod.mk.injEq] at hword
      rcases hword with ⟨-, rfl⟩ | ⟨-, rfl⟩ | ⟨-, rfl⟩ | ⟨-, rfl⟩ | ⟨-, rfl⟩ | ⟨-, rfl⟩
      all_goals constructor
  · split
    · exact readsOnly_readNumber true _
    · exact readsOnly_readNumber false cs

theorem keysOnce_cons {key : Text} {entries : List (Text × Json)} (hv : v.KeysOnce)
    (h : ∀ entry ∈ entries, entry.2.KeysOnce) : ∀ entry ∈ (key, v) :: entries, entry.2.KeysOnce := by
  intro entry hentry
  rcases List.mem_cons.mp hentry with rfl | hentry
  · exact hv
  · exact h entry hentry

theorem keysOnce_ofEntries {entries : List (Text × Json)} (h : ∀ entry ∈ entries, entry.2.KeysOnce) :
    (ofEntries entries).KeysOnce :=
  .object (nodup_keys_foldl_insertEntry _ _ entries List.nodup_nil) fun entry hentry =>
    h entry ((mem_foldl_insertEntry hentry).resolve_right List.not_mem_nil)

/-- No object that is read has a key twice; each step of the fuel goes by the readers with one step less. -/
theorem readsOnly_readValue (fuel : Nat) : ∀ cs, ReadsOnly KeysOnce (readValue fuel cs) ∧
    ReadsOnly (fun items => ∀ item ∈ items, item.KeysOnce) (readItems fuel cs) ∧
      ReadsOnly (fun entries => ∀ entry ∈ entries, entry.2.KeysOnce) (readEntries fuel cs) := by
  induction fuel with
  | zero => exact fun cs => ⟨readsOnly_error _, readsOnly_error _, readsOnly_error _⟩
  | succ fuel ih =>
      refine fun cs => ⟨?_, ?_, ?_⟩
      · unfold readValue
        split
        · split
          · exact readsOnly_ok (.text _) _
          · exact readsOnly_error _
        · split
          · exact readsOnly_ok (.array fun _ h => absurd h List.not_mem_nil) _
          · exact (ih _).2.1.bind fun items rest hitems => readsOnly_ok (.array hitems) rest
        · split
          · exact readsOnly_ok (.object List.nodup_nil fun _ h => absurd h List.not_mem_nil) _
          · exact (ih _).2.2.bind fun entries rest hentries => readsOnly_ok (keysOnce_ofEntries hentries) rest
        · exact readsOnly_readScalar cs
      · unfold readItems
        refine (ih _).1.bind fun item rest hitem => ?_
        dsimp only
        split
        · exact readsOnly_ok (List.forall_mem_singleton.mpr hitem) _
        · refine (ih _).2.1.bind fun items rest' hitems => ?_
          exact readsOnly_ok (List.forall_mem_cons.mpr ⟨hitem, hitems⟩) rest'
        · exact readsOnly_error _
      · unfold readEntries
        split
        · split
          · exact readsOnly_error _
          · split
            · refine (ih _).1.bind fun value rest hvalue => ?_
              dsimp only
              split
              · exact readsOnly_ok (keysOnce_cons hvalue fun _ h => absurd h List.not_mem_nil) _
              · refine (ih _).2.2.bind fun entries rest' hentries => ?_
                exact readsOnly_ok (keysOnce_cons hvalue hentries) rest'
              · exact readsOnly_error _
            · exact readsOnly_error _
        · exact readsOnly_error _

theorem keysOnce_of_parse {text : String} (h : parse text = .ok v) : v.KeysOnce := by
  have hread := (readsOnly_readValue (2 * text.toList.length + 2) (skipBlanks text.toList)).1
  rw [parse] at h
  dsimp only at h
  cases hresult : readValue (2 * text.toList.length + 2) (skipBlanks text.toList) with
  | error e =>
      rw [hresult] at h
      cases h
  | ok found =>
      obtain ⟨value, rest⟩ := found
      rw [hresult] at h
      change (if _ then _ else _) = Except.ok v at h
      split at h
      · obtain rfl : value = v := Except.ok.inj h
        exact hread value rest hresult
      · cases h

end Json

end QuestionBoard
