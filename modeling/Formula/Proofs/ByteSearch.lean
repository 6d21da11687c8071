import Formula.Library.Strings

/-! Searching for a text among the bytes of another. Of the bytes of a character only the first may
begin one, and the bytes of one character never begin those of another. So the bytes of a text are
found only where its characters are, and what is found is always the place between two characters. -/
namespace Formula.Library

section Lists

variable {α : Type} [BEq α] {needle text front rest : List α} {a : α} {place : Nat}

theorem positionOf?_le (found : positionOf? needle text = some place) : place ≤ text.length := by
  induction text generalizing place with
  | nil =>
    rw [positionOf?] at found
    split at found <;> cases found
    exact Nat.le_refl 0
  | cons b text ih =>
    rw [positionOf?] at found
    split at found
    case isTrue =>
      cases found
      exact Nat.zero_le _
    case isFalse =>
      obtain ⟨later, ahead, rfl⟩ := Option.map_eq_some_iff.mp found
      exact Nat.succ_le_succ (ih ahead)

variable [LawfulBEq α]

/-- A list is not found at places where its first item does not stand. -/
theorem positionOf?_append (absent : ∀ b ∈ front, b ≠ a) :
    positionOf? (a :: needle) (front ++ rest)
      = (positionOf? (a :: needle) rest).map (· + front.length) := by
  induction front with
  | nil => simp
  | cons b front ih =>
    have differs : ¬ (a :: needle).isPrefixOf (b :: (front ++ rest)) := by
      simp [List.isPrefixOf_cons_cons, (absent b List.mem_cons_self).symm]
    rw [List.cons_append, positionOf?, if_neg differs,
      ih fun c inside => absent c (List.mem_cons_of_mem _ inside), Option.map_map]
    rfl

end Lists

variable {needle text : List Char} {c d : Char} {front more : List UInt8}

theorem bytesOf_cons (c : Char) (text : List Char) :
    bytesOf (c :: text) = String.utf8EncodeChar c ++ bytesOf text := List.flatMap_cons

theorem bytesOf_append (front rest : List Char) :
    bytesOf (front ++ rest) = bytesOf front ++ bytesOf rest := List.flatMap_append

theorem charsIn_append (front rest : List UInt8) :
    charsIn (front ++ rest) = charsIn front + charsIn rest := List.countP_append

/-- The bytes of a character: one that begins it, and others that begin nothing. -/
theorem encoded_cases (c : Char) : ∃ first others, String.utf8EncodeChar c = first :: others ∧
    first.IsUTF8FirstByte ∧ ∀ b ∈ others, ¬ b.IsUTF8FirstByte := by
  cases encoded : String.utf8EncodeChar c with
  | nil =>
    have size := String.length_utf8EncodeChar c
    have some := c.utf8Size_pos
    rw [encoded, List.length_nil] at size
    omega
  | cons first others =>
    have begins : ∀ i (inside : i < (first :: others).length),
        (first :: others)[i].IsUTF8FirstByte ↔ i = 0 := by
      rw [← encoded]
      intro i inside
      exact UInt8.isUTF8FirstByte_getElem_utf8EncodeChar
    refine ⟨first, others, rfl, (begins 0 (Nat.succ_pos _)).mpr rfl, fun b inside => ?_⟩
    obtain ⟨i, below, rfl⟩ := List.mem_iff_getElem.mp inside
    have goesOn := begins (i + 1) (Nat.succ_lt_succ below)
    simpa using goesOn

theorem charsIn_encoded (c : Char) : charsIn (String.utf8EncodeChar c) = 1 := by
  obtain ⟨first, others, encoded, begins, goesOn⟩ := encoded_cases c
  have none : others.countP (fun b => decide b.IsUTF8FirstByte) = 0 :=
    List.countP_eq_zero.mpr (by simpa using goesOn)
  rw [encoded, charsIn, List.countP_cons_of_pos (by simpa using begins), none]

theorem charsIn_bytesOf (text : List Char) : charsIn (bytesOf text) = text.length := by
  induction text with
  | nil => rfl
  | cons c text ih =>
    rw [bytesOf_cons, charsIn_append, charsIn_encoded, ih, List.length_cons, Nat.add_comm]

/-- Bytes that begin with those of a character say which it is. -/
theorem encoded_inj (same : String.utf8EncodeChar c ++ front = String.utf8EncodeChar d ++ more) :
    c = d := by
  have arrays := congrArg List.toByteArray same
  rw [List.toByteArray_append, List.toByteArray_append] at arrays
  have read := congrArg (ByteArray.utf8DecodeChar? · 0) arrays
  simpa [ByteArray.utf8DecodeChar?_utf8EncodeChar_append] using read

/-- The bytes of a text begin those of another just if its characters do. -/
theorem bytesOf_prefix_iff : bytesOf needle <+: bytesOf text ↔ needle <+: text := by
  induction needle generalizing text with
  | nil => simp [bytesOf]
  | cons c needle ih =>
    cases text with
    | nil =>
      obtain ⟨first, others, encoded, -⟩ := encoded_cases c
      simp [bytesOf, encoded]
    | cons d text =>
      rw [bytesOf_cons, bytesOf_cons, List.cons_prefix_cons]
      constructor
      · rintro ⟨behind, whole⟩
        rw [List.append_assoc] at whole
        obtain rfl := encoded_inj whole
        exact ⟨rfl, ih.mp ⟨behind, List.append_cancel_left whole⟩⟩
      · rintro ⟨rfl, begins⟩
        obtain ⟨behind, whole⟩ := ih.mpr begins
        exact ⟨behind, by rw [List.append_assoc, whole]⟩

/-- Where a text does not begin, it is looked for behind the first character. -/
theorem positionOf?_bytesOf_cons (other : ¬ needle <+: c :: text) :
    positionOf? (bytesOf needle) (bytesOf (c :: text))
      = (positionOf? (bytesOf needle) (bytesOf text)).map (· + (String.utf8EncodeChar c).length) := by
  cases needle with
  | nil => exact absurd List.nil_prefix other
  | cons d needle =>
    obtain ⟨first, others, encoded, -, goesOn⟩ := encoded_cases c
    obtain ⟨own, ownOthers, ownEncoded, begins, -⟩ := encoded_cases d
    have absent : ∀ b ∈ others, b ≠ own := by
      rintro b inside rfl
      exact goesOn b inside begins
    have notHere : ¬ (bytesOf (d :: needle)).isPrefixOf (bytesOf (c :: text)) :=
      fun found => other (bytesOf_prefix_iff.mp (List.isPrefixOf_iff_prefix.mp found))
    rw [bytesOf_cons c, encoded, List.cons_append] at notHere ⊢
    rw [positionOf?, if_neg notHere, bytesOf_cons d, ownEncoded, List.cons_append,
      positionOf?_append absent, Option.map_map, List.length_cons]
    rfl

/-- The bytes of a text are found where its characters are, at a place between two characters. -/
theorem positionOf?_bytesOf (needle text : List Char) :
    positionOf? (bytesOf needle) (bytesOf text)
      = (positionOf? needle text).map fun place => (bytesOf (text.take place)).length := by
  induction text with
  | nil =>
    cases needle with
    | nil => rfl
    | cons d needle =>
      obtain ⟨first, others, encoded, -⟩ := encoded_cases d
      simp [bytesOf, positionOf?, encoded]
  | cons c text ih =>
    by_cases here : needle <+: c :: text
    · obtain ⟨first, others, encoded, -⟩ := encoded_cases c
      have begins : (bytesOf needle).isPrefixOf (bytesOf (c :: text)) :=
        List.isPrefixOf_iff_prefix.mpr (bytesOf_prefix_iff.mpr here)
      have found : positionOf? (bytesOf needle) (bytesOf (c :: text)) = some 0 := by
        rw [bytesOf_cons, encoded, List.cons_append] at begins ⊢
        rw [positionOf?, if_pos begins]
      rw [found, positionOf?, if_pos (List.isPrefixOf_iff_prefix.mpr here)]
      rfl
    · have notHere : ¬ needle.isPrefixOf (c :: text) :=
        fun found => here (List.isPrefixOf_iff_prefix.mp found)
      rw [positionOf?_bytesOf_cons here, positionOf?, if_neg notHere, ih, Option.map_map,
        Option.map_map]
      congr 1
      funext place
      simp [bytesOf_cons, Nat.add_comm]

/-- A search among bytes finds the position among characters. -/
theorem search?_eq (needle text : List Char) : search? needle text = positionOf? needle text := by
  rw [search?, positionOf?_bytesOf, Option.map_map]
  cases found : positionOf? needle text with
  | none => rfl
  | some place =>
    have split : bytesOf text = bytesOf (text.take place) ++ bytesOf (text.drop place) := by
      rw [← bytesOf_append, List.take_append_drop]
    have before : (bytesOf text).take (bytesOf (text.take place)).length
        = bytesOf (text.take place) := by
      rw [split, List.take_left]
    rw [Option.map_some, Function.comp_apply, before, charsIn_bytesOf, List.length_take,
      Nat.min_eq_left (positionOf?_le found)]

end Formula.Library
