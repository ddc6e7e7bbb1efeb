import Mathlib.Data.List.Forall2
import QuestionBoard.Proofs.Text.Utf8

/-!
Reading bytes that need not be UTF-8. Any bytes fall into the spellings of characters and into damaged
pieces, each the longest start of a spelling that is not gone on with, or a byte with which no spelling
begins; a damaged piece is read as one replacement character. As the first byte of a spelling never goes
on with another one, text keeps its meaning whatever bytes stand before and after it.
-/

namespace QuestionBoard

def InByteRange (range : Nat × Nat) (b : UInt8) : Prop := range.1 ≤ b.toNat ∧ b.toNat ≤ range.2

/-- Bits with the six bits that a byte adds to them. -/
@[irreducible] def addedBits (bits : Nat) (b : UInt8) : Nat := bits * 64 + (b.toNat - 0x80)

theorem addedBits_eq (bits : Nat) (b : UInt8) : addedBits bits b = bits * 64 + (b.toNat - 0x80) := by
  delta addedBits
  rfl

/-- The number that bits and the bytes after them make up. -/
def joinedBits (bits : Nat) : List UInt8 → Nat
  | [] => bits
  | b :: tail => joinedBits (addedBits bits b) tail

/-! ### First bytes and what must follow -/

/-- What first bytes there are, by the number of bytes that they announce. -/
theorem leadByte?_cases {b : UInt8} {bits : Nat} {ranges : List (Nat × Nat)}
    (h : leadByte? b = some ⟨bits, ranges⟩) :
    (ranges = [] ∧ b.toNat = bits ∧ bits < 0x80) ∨
    (ranges = [(0x80, 0xBF)] ∧ b.toNat = 0xC0 + bits ∧ 2 ≤ bits ∧ bits < 32) ∨
    (∃ low high, ranges = [(low, high), (0x80, 0xBF)] ∧ b.toNat = 0xE0 + bits ∧ bits < 16 ∧
      (if bits = 0 then 0xA0 else 0x80) = low ∧ (if bits = 0xD then 0x9F else 0xBF) = high) ∨
    ∃ low high, ranges = [(low, high), (0x80, 0xBF), (0x80, 0xBF)] ∧ b.toNat = 0xF0 + bits ∧
      bits < 5 ∧ (if bits = 0 then 0x90 else 0x80) = low ∧ (if bits = 4 then 0x8F else 0xBF) = high := by
  simp only [leadByte?] at h
  split_ifs at h <;> simp only [Option.some.injEq, LeadByte.mk.injEq] at h <;> obtain ⟨rfl, rfl⟩ := h
  · exact Or.inl ⟨rfl, rfl, by omega⟩
  · exact Or.inr (Or.inl ⟨rfl, by omega, by omega, by omega⟩)
  · exact Or.inr (Or.inr (Or.inl ⟨_, _, rfl, by omega, by omega, rfl, rfl⟩))
  · exact Or.inr (Or.inr (Or.inl ⟨_, _, rfl, by omega, by omega, rfl, rfl⟩))
  · exact Or.inr (Or.inr (Or.inl ⟨_, _, rfl, by omega, by omega, if_neg (by omega), if_neg (by omega)⟩))
  · exact Or.inr (Or.inr (Or.inr ⟨_, _, rfl, by omega, by omega, rfl, rfl⟩))
  · exact Or.inr (Or.inr (Or.inr ⟨_, _, rfl, by omega, by omega, if_neg (by omega), if_neg (by omega)⟩))
  · exact Or.inr (Or.inr (Or.inr ⟨_, _, rfl, by omega, by omega, rfl, rfl⟩))

/-- The bytes that must follow a first byte are none with which a spelling begins. -/
theorem range_of_leadByte? {b : UInt8} {lead : LeadByte} (h : leadByte? b = some lead) :
    ∀ range ∈ lead.following, 0x80 ≤ range.1 ∧ range.1 ≤ range.2 ∧ range.2 ≤ 0xBF := by
  obtain ⟨bits, ranges⟩ := lead
  rcases leadByte?_cases h with ⟨rfl, -⟩ | ⟨rfl, -⟩ | ⟨low, high, rfl, -, -, hlow, hhigh⟩ |
    ⟨low, high, rfl, -, -, hlow, hhigh⟩
  · simp
  · simp
  · simp only [List.forall_mem_cons]
    split_ifs at hlow hhigh <;> simp <;> omega
  · simp only [List.forall_mem_cons]
    split_ifs at hlow hhigh <;> simp <;> omega

theorem not_inByteRange_of_leadByte? {b x : UInt8} {lead lead' : LeadByte} (h : leadByte? b = some lead)
    (hx : leadByte? x = some lead') : ∀ range ∈ lead.following, ¬InByteRange range x := by
  intro range hrange
  obtain ⟨hlow, -, hhigh⟩ := range_of_leadByte? h range hrange
  obtain ⟨bits, ranges⟩ := lead'
  rw [InByteRange]
  rcases leadByte?_cases hx with ⟨-, hbyte, hbits⟩ | ⟨-, hbyte, hbits⟩ | ⟨_, _, -, hbyte, -⟩ |
    ⟨_, _, -, hbyte, -⟩ <;> omega

theorem exists_inByteRange_of_mem {ranges : List (Nat × Nat)} {tail : List UInt8} {b : UInt8}
    (h : List.Forall₂ InByteRange ranges tail) (hb : b ∈ tail) : ∃ range ∈ ranges, InByteRange range b := by
  induction h with
  | nil => cases hb
  | cons hfirst _ ih =>
      rcases List.mem_cons.mp hb with rfl | hb
      · exact ⟨_, List.mem_cons_self, hfirst⟩
      · obtain ⟨range, hrange, hin⟩ := ih hb
        exact ⟨range, List.mem_cons_of_mem _ hrange, hin⟩

/-- The bytes of a character are a first byte and those that it announces. -/
theorem exists_encodeChar_eq (c : Char) : ∃ b lead tail, encodeChar c = b :: tail ∧
    leadByte? b = some lead ∧ List.Forall₂ InByteRange lead.following tail := by
  have hvalid : c.toNat < 0xD800 ∨ 0xDFFF < c.toNat ∧ c.toNat < 0x110000 := c.valid
  have hbyte : ∀ n, n < 64 → (0x80 + n).toUInt8.toNat = 0x80 + n := fun n hn =>
    toNat_toUInt8 (by omega)
  generalize hn : c.toNat = n at hvalid
  simp only [encodeChar, hn]
  split_ifs with h₁ h₂ h₃
  · exact ⟨_, _, _, rfl, leadByte?_ascii h₁, .nil⟩
  · refine ⟨_, _, _, rfl, leadByte?_two (by omega) (by omega), .cons ?_ .nil⟩
    rw [InByteRange, hbyte _ (by omega)]
    omega
  · obtain ⟨low, high, hlead, hlow, hhigh⟩ := leadByte?_three (n := n / 4096) (by omega)
    refine ⟨_, _, _, rfl, hlead, .cons ?_ (.cons ?_ .nil)⟩ <;> rw [InByteRange, hbyte _ (by omega)]
    · split_ifs at hlow hhigh <;> omega
    · omega
  · obtain ⟨low, high, hlead, hlow, hhigh⟩ := leadByte?_four (n := n / 262144) (by omega)
    refine ⟨_, _, _, rfl, hlead, .cons ?_ (.cons ?_ (.cons ?_ .nil))⟩ <;>
      rw [InByteRange, hbyte _ (by omega)]
    · split_ifs at hlow hhigh <;> omega
    · omega
    · omega

theorem toNat_charOfNat {n : Nat} (h : n < 0xD800 ∨ 0xDFFF < n ∧ n < 0x110000) :
    (Char.ofNat n).toNat = n := by
  rw [Char.ofNat, dif_pos h]
  rfl

theorem toUInt8_eq_of_toNat {n : Nat} {b : UInt8} (h : b.toNat = n) : n.toUInt8 = b := by
  subst h
  exact UInt8.ofNat_toNat

/-- A first byte and bytes that it announces are the bytes of a character. -/
theorem encodeChar_joinedBits {b : UInt8} {lead : LeadByte} {tail : List UInt8}
    (hlead : leadByte? b = some lead) (htail : List.Forall₂ InByteRange lead.following tail) :
    encodeChar (Char.ofNat (joinedBits lead.bits tail)) = b :: tail := by
  obtain ⟨bits, ranges⟩ := lead
  generalize hn : joinedBits bits tail = n
  rcases leadByte?_cases hlead with ⟨rfl, hb, hbits⟩ | ⟨rfl, hb, hbits, hbits'⟩ |
    ⟨low, high, rfl, hb, hbits, hlow, hhigh⟩ | ⟨low, high, rfl, hb, hbits, hlow, hhigh⟩
  · cases htail
    simp only [joinedBits] at hn
    have hchar : (Char.ofNat n).toNat = n := toNat_charOfNat (by omega)
    simp only [encodeChar, hchar]
    rw [if_pos (by omega), toUInt8_eq_of_toNat (b := b) (by omega)]
  · obtain _ | ⟨⟨hx, hx'⟩, _ | _⟩ := htail
    rename_i x
    simp only [joinedBits, addedBits_eq] at hn hx hx'
    have hchar : (Char.ofNat n).toNat = n := toNat_charOfNat (by omega)
    simp only [encodeChar, hchar]
    rw [if_neg (by omega), if_pos (by omega), toUInt8_eq_of_toNat (b := b) (by omega),
      toUInt8_eq_of_toNat (b := x) (by omega)]
  · obtain _ | ⟨⟨hx, hx'⟩, _ | ⟨⟨hy, hy'⟩, _ | _⟩⟩ := htail
    rename_i x y
    simp only [joinedBits, addedBits_eq] at hn hx hx' hy hy'
    have hfirst : (bits = 0 → 0xA0 ≤ x.toNat) ∧ (bits = 0xD → x.toNat ≤ 0x9F) ∧
        0x80 ≤ x.toNat ∧ x.toNat ≤ 0xBF := by
      split_ifs at hlow hhigh <;> omega
    have hchar : (Char.ofNat n).toNat = n := toNat_charOfNat (by omega)
    simp only [encodeChar, hchar]
    rw [if_neg (by omega), if_neg (by omega), if_pos (by omega),
      toUInt8_eq_of_toNat (b := b) (by omega), toUInt8_eq_of_toNat (b := x) (by omega),
      toUInt8_eq_of_toNat (b := y) (by omega)]
  · obtain _ | ⟨⟨hx, hx'⟩, _ | ⟨⟨hy, hy'⟩, _ | ⟨⟨hz, hz'⟩, _ | _⟩⟩⟩ := htail
    rename_i x y z
    simp only [joinedBits, addedBits_eq] at hn hx hx' hy hy' hz hz'
    have hfirst : (bits = 0 → 0x90 ≤ x.toNat) ∧ (bits = 4 → x.toNat ≤ 0x8F) ∧
        0x80 ≤ x.toNat ∧ x.toNat ≤ 0xBF := by
      split_ifs at hlow hhigh <;> omega
    have hchar : (Char.ofNat n).toNat = n := toNat_charOfNat (by omega)
    simp only [encodeChar, hchar]
    rw [if_neg (by omega), if_neg (by omega), if_neg (by omega),
      toUInt8_eq_of_toNat (b := b) (by omega), toUInt8_eq_of_toNat (b := x) (by omega),
      toUInt8_eq_of_toNat (b := y) (by omega), toUInt8_eq_of_toNat (b := z) (by omega)]

/-! ### Pieces -/

/-- What reading the bytes after a first byte comes to: all that must follow is there, or only a first part
of it, and what is left does not go on with it. -/
inductive Following (bits : Nat) (ranges : List (Nat × Nat)) :
    List UInt8 → Option Char × List UInt8 → Prop
  | whole {tail rest : List UInt8} (htail : List.Forall₂ InByteRange ranges tail) :
      Following bits ranges (tail ++ rest) (some (Char.ofNat (joinedBits bits tail)), rest)
  | cut {met more : List (Nat × Nat)} {range : Nat × Nat} {part rest : List UInt8}
      (hranges : ranges = met ++ range :: more) (hpart : List.Forall₂ InByteRange met part)
      (hstop : ∀ b ∈ rest.head?, ¬InByteRange range b) :
      Following bits ranges (part ++ rest) (none, rest)

theorem Following.cons {bits : Nat} {range : Nat × Nat} {ranges : List (Nat × Nat)} {b : UInt8}
    {bytes : List UInt8} {next : Option Char × List UInt8} (hb : InByteRange range b)
    (h : Following (addedBits bits b) ranges bytes next) :
    Following bits (range :: ranges) (b :: bytes) next := by
  cases h with
  | @whole tail rest htail =>
      have hbits : joinedBits (addedBits bits b) tail = joinedBits bits (b :: tail) := rfl
      rw [hbits]
      exact .whole (.cons hb htail)
  | cut hranges hpart hstop => exact .cut (congrArg (range :: ·) hranges) (.cons hb hpart) hstop

theorem following_followSequence (bits : Nat) (ranges : List (Nat × Nat)) (bytes : List UInt8) :
    Following bits ranges bytes (followSequence bits ranges bytes) := by
  induction ranges generalizing bits bytes with
  | nil =>
      rw [followSequence]
      exact .whole .nil
  | cons range ranges ih =>
      cases bytes with
      | nil =>
          rw [followSequence]
          exact .cut (List.nil_append (range :: ranges)).symm .nil (by simp)
      | cons b rest =>
          rw [followSequence]
          split
          · rename_i hb
            rw [← addedBits_eq]
            exact (ih _ rest).cons hb
          · rename_i hb
            refine .cut (List.nil_append (range :: ranges)).symm .nil ?_
            simpa [InByteRange] using hb

/-- Whether bytes, with others after them, begin with a damaged piece: the longest start of the spelling of
a character, which is not all of it, or a byte with which no spelling begins. -/
structure DamagedPiece (piece rest : List UInt8) : Prop where
  nonempty : piece ≠ []
  unfinished : ∀ c, ¬encodeChar c <+: piece
  longest : ∀ c start, start <+: encodeChar c → start <+: piece ++ rest → start.length ≤ piece.length
  begins : (∃ c, piece <+: encodeChar c) ∨ piece.length = 1

/-- How bytes are read: the spelling of a character as the character, a damaged piece as the replacement
character. -/
inductive ReadsLossy : List UInt8 → List Char → Prop
  | done : ReadsLossy [] []
  | char (c : Char) {rest : List UInt8} {chars : List Char} (h : ReadsLossy rest chars) :
      ReadsLossy (encodeChar c ++ rest) (c :: chars)
  | damage {piece rest : List UInt8} {chars : List Char} (hpiece : DamagedPiece piece rest)
      (h : ReadsLossy rest chars) : ReadsLossy (piece ++ rest) (replacementCharacter :: chars)

/-- Where bytes stop going on with a first byte, no spelling goes on with them. -/
theorem length_le_of_stop {met more : List (Nat × Nat)} {range : Nat × Nat}
    {part rest tail start : List UInt8} (hpart : List.Forall₂ InByteRange met part)
    (htail : List.Forall₂ InByteRange (met ++ range :: more) tail)
    (hstop : ∀ b ∈ rest.head?, ¬InByteRange range b) (hstart : start <+: tail)
    (hbytes : start <+: part ++ rest) : start.length ≤ part.length := by
  induction hpart generalizing tail start with
  | nil =>
      obtain _ | ⟨hx, -⟩ := htail
      cases start with
      | nil => exact Nat.le_refl 0
      | cons y start =>
          obtain ⟨rfl, -⟩ := List.cons_prefix_cons.mp hstart
          obtain ⟨rest', rfl⟩ := hbytes
          exact absurd hx (hstop y rfl)
  | cons _ _ ih =>
      obtain _ | ⟨-, htail⟩ := htail
      cases start with
      | nil => exact Nat.zero_le _
      | cons y start =>
          have hlength := ih htail (List.cons_prefix_cons.mp hstart).2 (List.cons_prefix_cons.mp hbytes).2
          simpa using hlength

theorem exists_forall₂_inByteRange {b : UInt8} {lead : LeadByte} {met more : List (Nat × Nat)}
    {part : List UInt8} (hlead : leadByte? b = some lead) (hranges : lead.following = met ++ more)
    (hpart : List.Forall₂ InByteRange met part) :
    ∃ others, List.Forall₂ InByteRange lead.following (part ++ others) := by
  have hmore : List.Forall₂ InByteRange more (more.map fun range => range.1.toUInt8) := by
    refine List.forall₂_map_right_iff.mpr (List.forall₂_same.mpr fun range hrange => ?_)
    have hmem : range ∈ lead.following := by
      rw [hranges]
      exact List.mem_append_right met hrange
    obtain ⟨-, hle, hhigh⟩ := range_of_leadByte? hlead range hmem
    rw [InByteRange, toNat_toUInt8 (by omega)]
    omega
  rw [hranges]
  exact ⟨_, List.rel_append hpart hmore⟩

theorem damagedPiece_of_cut {b : UInt8} {lead : LeadByte} {met more : List (Nat × Nat)}
    {range : Nat × Nat} {part rest : List UInt8} (hlead : leadByte? b = some lead)
    (hranges : lead.following = met ++ range :: more) (hpart : List.Forall₂ InByteRange met part)
    (hstop : ∀ b ∈ rest.head?, ¬InByteRange range b) : DamagedPiece (b :: part) rest := by
  -- A spelling that begins with the same byte goes on with bytes in the same ranges.
  have htail : ∀ c start, b :: start <+: encodeChar c → ∃ tail, encodeChar c = b :: tail ∧
      List.Forall₂ InByteRange (met ++ range :: more) tail ∧ start <+: tail := by
    intro c start hstart
    obtain ⟨b', lead', tail, hchar, hlead', htail⟩ := exists_encodeChar_eq c
    rw [hchar, List.cons_prefix_cons] at hstart
    obtain ⟨rfl, hstart⟩ := hstart
    cases hlead.symm.trans hlead'
    exact ⟨tail, hchar, hranges ▸ htail, hstart⟩
  refine ⟨List.cons_ne_nil b part, fun c hc => ?_, fun c start hstart hbytes => ?_, Or.inl ?_⟩
  · obtain ⟨b', -, tail', hchar, -⟩ := exists_encodeChar_eq c
    have hfirst : b' = b := (List.cons_prefix_cons.mp (hchar ▸ hc)).1
    subst hfirst
    obtain ⟨tail, hchar', htail, -⟩ := htail c [] ⟨tail', by simp [hchar]⟩
    have hle := hc.length_le
    have hmet := hpart.length_eq
    have hall := htail.length_eq
    rw [hchar'] at hle
    simp only [List.length_append, List.length_cons] at hle hall
    omega
  · cases start with
    | nil => exact Nat.zero_le _
    | cons y start =>
        rw [List.cons_append, List.cons_prefix_cons] at hbytes
        obtain ⟨rfl, hbytes⟩ := hbytes
        obtain ⟨tail, -, htail, hstart⟩ := htail c start hstart
        exact Nat.succ_le_succ (length_le_of_stop hpart htail hstop hstart hbytes)
  · obtain ⟨others, hwhole⟩ := exists_forall₂_inByteRange hlead hranges hpart
    exact ⟨Char.ofNat (joinedBits lead.bits (part ++ others)), others,
      (encodeChar_joinedBits hlead hwhole).symm⟩

theorem damagedPiece_of_leadByte?_eq_none {b : UInt8} (rest : List UInt8) (h : leadByte? b = none) :
    DamagedPiece [b] rest := by
  have hfirst : ∀ c start, ¬b :: start <+: encodeChar c := by
    intro c start hstart
    obtain ⟨b', lead, tail, hchar, hlead, -⟩ := exists_encodeChar_eq c
    rw [hchar, List.cons_prefix_cons] at hstart
    obtain ⟨rfl, -⟩ := hstart
    cases h.symm.trans hlead
  refine ⟨List.cons_ne_nil b [], fun c hc => ?_, fun c start hstart hbytes => ?_, Or.inr rfl⟩
  · obtain ⟨b', lead, tail, hchar, -⟩ := exists_encodeChar_eq c
    have hc' := hc
    rw [hchar, List.cons_prefix_cons] at hc'
    obtain ⟨rfl, -⟩ := hc'
    exact hfirst c tail ⟨[], by simp [hchar]⟩
  · cases start with
    | nil => exact Nat.zero_le _
    | cons y start =>
        obtain ⟨rfl, -⟩ := List.cons_prefix_cons.mp hbytes
        exact absurd hstart (hfirst c start)

theorem readsLossy_decodeCharsLossy (bytes : List UInt8) : ReadsLossy bytes (decodeCharsLossy bytes) := by
  induction bytes using decodeCharsLossy.induct with
  | case1 =>
      rw [decodeCharsLossy]
      exact .done
  | case2 b rest hnone ih =>
      rw [decodeCharsLossy, hnone]
      change ReadsLossy ([b] ++ rest) _
      exact .damage (damagedPiece_of_leadByte?_eq_none rest hnone) ih
  | case3 b rest lead hlead next ih =>
      have hread : decodeCharsLossy (b :: rest) =
          next.1.getD replacementCharacter :: decodeCharsLossy next.2 := by
        rw [decodeCharsLossy, hlead]
      have hnext : Following lead.bits lead.following rest next := following_followSequence _ _ _
      rw [hread]
      clear hread
      generalize next = next' at hnext ih
      cases hnext with
      | whole htail =>
          rw [← List.cons_append, ← encodeChar_joinedBits hlead htail]
          exact .char _ ih
      | cut hranges hpart hstop =>
          rw [← List.cons_append]
          exact .damage (damagedPiece_of_cut hlead hranges hpart hstop) ih

/-! ### Only one way to read -/

theorem encodeChar_ne_nil (c : Char) : encodeChar c ≠ [] := by
  obtain ⟨b, -, tail, hchar, -⟩ := exists_encodeChar_eq c
  exact hchar ▸ List.cons_ne_nil b tail

theorem encodeChar_append_inj {c c' : Char} {rest rest' : List UInt8}
    (h : encodeChar c ++ rest = encodeChar c' ++ rest') : c = c' ∧ rest = rest' := by
  have hread := congrArg decodeCharsLossy h
  rw [decodeCharsLossy_encodeChar_append, decodeCharsLossy_encodeChar_append] at hread
  obtain rfl : c = c' := (List.cons.inj hread).1
  exact ⟨rfl, List.append_cancel_left h⟩

namespace DamagedPiece

variable {piece piece' rest rest' : List UInt8}

theorem not_prefix (h : DamagedPiece piece rest) (c : Char) : ¬encodeChar c <+: piece ++ rest := by
  intro hc
  have hlength := h.longest c _ (List.prefix_refl _) hc
  exact h.unfinished c (List.prefix_of_prefix_length_le hc (List.prefix_append piece rest) hlength)

theorem length_le (h : DamagedPiece piece rest) (h' : DamagedPiece piece' rest')
    (hbytes : piece ++ rest = piece' ++ rest') : piece.length ≤ piece'.length := by
  rcases h.begins with ⟨c, hc⟩ | hone
  · exact h'.longest c piece hc (hbytes ▸ List.prefix_append piece rest)
  · exact hone ▸ List.length_pos_iff.mpr h'.nonempty

theorem unique (h : DamagedPiece piece rest) (h' : DamagedPiece piece' rest')
    (hbytes : piece ++ rest = piece' ++ rest') : piece = piece' ∧ rest = rest' :=
  List.append_inj hbytes (Nat.le_antisymm (h.length_le h' hbytes) (h'.length_le h hbytes.symm))

/-- A damaged piece is one also when a first byte comes after it, at any distance. -/
theorem append (h : DamagedPiece piece rest) {b : UInt8} {lead : LeadByte} (hlead : leadByte? b = some lead)
    (more : List UInt8) : DamagedPiece piece (rest ++ b :: more) := by
  refine ⟨h.nonempty, h.unfinished, fun c start hstart hbytes => ?_, h.begins⟩
  rw [← List.append_assoc] at hbytes
  rcases List.prefix_or_prefix_of_prefix hbytes (List.prefix_append (piece ++ rest) (b :: more)) with
    hshort | ⟨others, rfl⟩
  · exact h.longest c start hstart hshort
  · cases others with
    | nil =>
        rw [List.append_nil] at hstart ⊢
        exact h.longest c _ hstart (List.prefix_refl _)
    | cons x others =>
        -- The first byte would be one of those that must follow another.
        obtain ⟨rfl, -⟩ := List.cons_prefix_cons.mp ((List.prefix_append_right_inj _).mp hbytes)
        obtain ⟨y, lead', tail, hchar, hlead', htail⟩ := exists_encodeChar_eq c
        obtain ⟨p, part, hpart⟩ := List.exists_cons_of_ne_nil h.nonempty
        rw [hpart, hchar, List.cons_append, List.cons_append, List.cons_prefix_cons] at hstart
        have hmem : x ∈ tail := hstart.2.subset (by simp)
        obtain ⟨range, hrange, hin⟩ := exists_inByteRange_of_mem htail hmem
        exact absurd hin (not_inByteRange_of_leadByte? hlead' hlead range hrange)

end DamagedPiece

theorem ReadsLossy.eq_nil {chars : List Char} (h : ReadsLossy [] chars) : chars = [] := by
  generalize hbytes : [] = bytes at h
  cases h with
  | done => rfl
  | char c => exact absurd (List.append_eq_nil_iff.mp hbytes.symm).1 (encodeChar_ne_nil c)
  | damage hpiece => exact absurd (List.append_eq_nil_iff.mp hbytes.symm).1 hpiece.nonempty

theorem ReadsLossy.unique {bytes : List UInt8} {chars chars' : List Char} (h : ReadsLossy bytes chars)
    (h' : ReadsLossy bytes chars') : chars = chars' := by
  induction h generalizing chars' with
  | done => exact h'.eq_nil.symm
  | @char c rest chars _ ih =>
      generalize hbytes : encodeChar c ++ rest = bytes at h'
      cases h' with
      | done => exact absurd (List.append_eq_nil_iff.mp hbytes).1 (encodeChar_ne_nil c)
      | char c' h' =>
          obtain ⟨rfl, rfl⟩ := encodeChar_append_inj hbytes
          rw [ih h']
      | damage hpiece => exact absurd ⟨rest, hbytes⟩ (hpiece.not_prefix c)
  | @damage piece rest chars hpiece _ ih =>
      generalize hbytes : piece ++ rest = bytes at h'
      cases h' with
      | done => exact absurd (List.append_eq_nil_iff.mp hbytes).1 hpiece.nonempty
      | char c => exact absurd ⟨_, hbytes.symm⟩ (hpiece.not_prefix c)
      | damage hpiece' h' =>
          obtain ⟨rfl, rfl⟩ := hpiece.unique hpiece' hbytes
          rw [ih h']

theorem readsLossy_iff {bytes : List UInt8} {chars : List Char} :
    ReadsLossy bytes chars ↔ decodeCharsLossy bytes = chars := by
  refine ⟨fun h => (readsLossy_decodeCharsLossy bytes).unique h, ?_⟩
  rintro rfl
  exact readsLossy_decodeCharsLossy bytes

/-! ### Text among other bytes -/

theorem ReadsLossy.append_char {bytes rest : List UInt8} {chars chars' : List Char} {c : Char}
    (h : ReadsLossy bytes chars) (h' : ReadsLossy (encodeChar c ++ rest) chars') :
    ReadsLossy (bytes ++ (encodeChar c ++ rest)) (chars ++ chars') := by
  induction h with
  | done => exact h'
  | char c' _ ih =>
      rw [List.append_assoc]
      exact .char c' ih
  | damage hpiece _ ih =>
      rw [List.append_assoc]
      refine .damage ?_ ih
      obtain ⟨b, lead, tail, hchar, hlead, -⟩ := exists_encodeChar_eq c
      rw [hchar]
      exact hpiece.append hlead (tail ++ rest)

theorem decodeCharsLossy_append_encodeChar_append (before : List UInt8) (c : Char) (after : List UInt8) :
    decodeCharsLossy (before ++ (encodeChar c ++ after)) =
      decodeCharsLossy before ++ c :: decodeCharsLossy after :=
  readsLossy_iff.mp ((readsLossy_decodeCharsLossy before).append_char
    (.char c (readsLossy_decodeCharsLossy after)))

theorem decodeCharsLossy_flatMap_encodeChar_append (chars : List Char) (after : List UInt8) :
    decodeCharsLossy (chars.flatMap encodeChar ++ after) = chars ++ decodeCharsLossy after := by
  induction chars with
  | nil => rfl
  | cons c chars ih =>
      rw [List.flatMap_cons, List.append_assoc, decodeCharsLossy_encodeChar_append, ih, List.cons_append]

/-- Text is read as it is, and what stands before and after it as if it stood alone. Empty text does not
keep apart what it stands between. -/
theorem decodeUtf8Lossy_append_encodeUtf8_append {s : String} (hs : s ≠ "") (before after : List UInt8) :
    decodeUtf8Lossy (before ++ encodeUtf8 s ++ after) =
      decodeUtf8Lossy before ++ s ++ decodeUtf8Lossy after := by
  have hchars : s.toList ≠ [] := by simpa using hs
  obtain ⟨c, chars, hchars⟩ := List.exists_cons_of_ne_nil hchars
  apply String.toList_injective
  simp only [decodeUtf8Lossy, encodeUtf8, String.toList_append, String.toList_ofList, hchars]
  rw [List.flatMap_cons, List.append_assoc, List.append_assoc,
    decodeCharsLossy_append_encodeChar_append, decodeCharsLossy_flatMap_encodeChar_append]
  simp

end QuestionBoard
