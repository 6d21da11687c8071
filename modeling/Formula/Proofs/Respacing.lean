import Formula.Proofs.Tiling
import Formula.Proofs.Twins
import Formula.Proofs.Typing

/-! Blanks and comments only separate. Where the pieces of a formula are put together again with
other blanks and comments between them, and a blank first behind each piece, the tokens are the same
words: each token was read off its own characters, so it is read off them again. -/
namespace Formula

namespace Token

variable {read : Nat} {comment front behind rest : List Char}

private theorem gapFrom_line (inside : '\n' ∉ comment) :
    gapFrom .line read (comment ++ '\n' :: rest) =
      gapFrom .blanks (read + comment.length + 1) rest := by
  induction comment generalizing read with
  | nil => rfl
  | cons c comment ih =>
    have noFeed : c ≠ '\n' := fun same => inside (by simp [same])
    have later : '\n' ∉ comment := fun member => inside (List.mem_cons_of_mem _ member)
    rw [List.cons_append, gapFrom, if_neg noFeed, ih later, List.length_cons]
    congr 1
    omega

private theorem gapFrom_block {start : Nat} (inside : ¬ ['*', '/'] <:+: comment) :
    gapFrom (.block start) read (comment ++ '*' :: '/' :: rest) =
      gapFrom .blanks (read + comment.length + 2) rest := by
  induction comment generalizing read with
  | nil => rfl
  | cons c comment ih =>
    have later : ¬ ['*', '/'] <:+: comment := fun closed =>
      inside (List.infix_cons_iff.mpr (.inr closed))
    have goesOn : ∀ more, c = '*' → comment ++ '*' :: '/' :: rest ≠ '/' :: more := by
      rintro more rfl same
      cases comment with
      | nil => cases same
      | cons d comment =>
        cases same
        exact inside (List.infix_cons_iff.mpr (.inl (by simp)))
    rw [List.cons_append, gapFrom]
    · rw [ih later, List.length_cons]
      congr 1
      omega
    · exact fun more same rest => goesOn more same rest

private theorem gapFrom_visible (visible : Visible behind) :
    gapFrom .blanks read behind = .ok read := by
  cases behind with
  | nil => rfl
  | cons c rest =>
    have noBlank := visible.noBlank c rfl
    rw [gapFrom]
    · simp [noBlank]
    · rintro more rfl rfl
      exact visible.noLine (by simp)
    · rintro more rfl rfl
      exact visible.noBlock (by simp)

/-- Blanks and comments are passed over, up to where neither goes on. -/
theorem gapFrom_trivia (trivia : Trivia False front) (visible : Visible behind) (read : Nat) :
    gapFrom .blanks read (front ++ behind) = .ok (read + front.length) := by
  induction trivia generalizing read with
  | nil => exact gapFrom_visible visible
  | @blank c rest blank others ih =>
    have noSlash : c ≠ '/' := Unicode.ne_of_blank blank (by decide)
    rw [List.cons_append, gapFrom, if_pos blank, ih, List.length_cons]
    · congr 1
      omega
    · exact fun _ same => absurd same noSlash
    · exact fun _ same => absurd same noSlash
  | line inside others ih =>
    rw [List.cons_append, List.cons_append, gapFrom, List.append_assoc, List.cons_append,
      gapFrom_line inside, ih]
    congr 1
    simp
    omega
  | block inside others ih =>
    rw [List.cons_append, List.cons_append, gapFrom, List.append_assoc, List.cons_append,
      List.cons_append, gapFrom_block inside, ih]
    congr 1
    simp
    omega
  | lastLine last => exact last.elim

theorem gap_trivia (trivia : Trivia False front) (visible : Visible behind) :
    gap (front ++ behind) = .ok front.length := by
  rw [gap, gapFrom_trivia trivia visible, Nat.zero_add]

end Token

/-- What may stand between two pieces: blanks and closed comments, of which a blank comes first. -/
structure Separator (text : String) : Prop where
  trivia : Trivia False text.toList
  begins : ∃ c rest, text.toList = c :: rest ∧ Unicode.isBlank c

/-- Pieces put together with separators between them, and one or nothing behind the last. -/
inductive Woven : List String → String → Prop where
  | none : Woven [] ""
  | last {piece ending : String} (ends : ending = "" ∨ Separator ending) :
      Woven [piece] (piece ++ ending)
  | more {piece between next rest : String} {pieces : List String} (separator : Separator between)
      (others : Woven (next :: pieces) rest) :
      Woven (piece :: next :: pieces) (piece ++ between ++ rest)

theorem Separator.setOff {text : String} (separator : Separator text) (rest : List Char) :
    Token.SetOff (text.toList ++ rest) := by
  obtain ⟨c, more, spelled, blank⟩ := separator.begins
  intro d first
  rw [spelled] at first
  cases first
  exact blank

namespace Token

variable {source : String} {token : Token} {tokens words : List Token} {slices : List String}
  {before lead more rest tail : List Char} {c : Char} {fuel : Nat}

/-- A token that is read of the characters of a piece, wherever these are set off. -/
def Written (token : Token) (piece : String) : Prop :=
  ∃ c more, piece.toList = c :: more ∧ token.Stands c more

/-- The tokens of a text up to its end, and the pieces of the source they were read from. -/
theorem Tiled.pieces (tiled : Tiled before rest tokens) (whole : source.toList = before ++ rest) :
    ∃ words span slices, tokens = words ++ [.word .endOfInput "" span] ∧
      words.map (·.span.slice? source) = slices.map some ∧ List.Forall₂ Written words slices := by
  induction tiled with
  | @ending before lead span => exact ⟨[], span, [], rfl, rfl, .nil⟩
  | @token before lead more rest c first tokens trivia stands covers others ih =>
    have whole : source.toList = before ++ lead ++ c :: more ++ rest := by simpa using whole
    obtain ⟨words, span, slices, rfl, cut, written⟩ := ih whole
    have spelled : (String.ofList (c :: more)).toList = c :: more := String.toList_ofList
    refine ⟨first :: words, span, String.ofList (c :: more) :: slices, rfl, ?_,
      .cons ⟨c, more, spelled, stands⟩ written⟩
    rw [List.map_cons, List.map_cons, covers.slice whole, cut]

/-- Before the end only blanks and comments are left. -/
private theorem readFrom_trivia (trivia : Trivia False rest) (place : Position) :
    ∃ span, readFrom (fuel + 1) ⟨place, rest⟩ = ([.word .endOfInput "" span], none) := by
  have skips := gap_trivia trivia visible_nil
  rw [List.append_nil] at skips
  rw [readFrom]
  simp only [skips, Cursor.advance, List.drop_length]
  exact ⟨_, rfl⟩

/-- A piece behind blanks and comments and before a blank or nothing is read as before. -/
private theorem readFrom_piece (trivia : Trivia False lead) (stands : token.Stands c more)
    (setOff : SetOff tail) (fuel : Nat) (place : Position) :
    ∃ again later, token.SameWord again ∧
      readFrom (fuel + 1) ⟨place, lead ++ (c :: more ++ tail)⟩ =
        (again :: (readFrom fuel ⟨later, tail⟩).1, (readFrom fuel ⟨later, tail⟩).2) := by
  obtain ⟨found, cut, same⟩ := stands.read
  have skips := gap_trivia trivia (stands.visible tail setOff)
  have reached : (lead ++ c :: (more ++ tail)).drop lead.length = c :: (more ++ tail) :=
    List.drop_left
  have read := @Lexeme.readFrom_token fuel _ ⟨place, _⟩ _ _ _ skips reached (cut.again tail setOff)
  obtain ⟨later, next⟩ : ∃ later, ((⟨place, lead ++ c :: (more ++ tail)⟩ : Cursor).advance
      lead.length).advance found.length = ⟨later, tail⟩ :=
    ⟨(place.after lead).after (c :: more), by simp [Cursor.advance, cut.length]⟩
  rw [next] at read
  refine ⟨_, later, ?_, read⟩
  rw [same]
  exact ⟨rfl, rfl, rfl⟩

/-- Pieces that are put together anew are read as the same words, and then the end. -/
theorem readFrom_woven {body : String} (woven : Woven slices body)
    (written : List.Forall₂ Written words slices) (trivia : Trivia False lead)
    (enough : (lead ++ body.toList).length < fuel) (place : Position) :
    ∃ again span, readFrom fuel ⟨place, lead ++ body.toList⟩ =
      (again ++ [.word .endOfInput "" span], none) ∧ List.Forall₂ SameWord words again := by
  obtain ⟨fuel, rfl⟩ := Nat.exists_eq_succ_of_ne_zero (Nat.ne_zero_of_lt enough)
  induction woven generalizing words lead fuel place with
  | none =>
    cases written
    obtain ⟨span, read⟩ := @readFrom_trivia lead fuel trivia place
    exact ⟨[], span, by simpa using read, .nil⟩
  | @last piece ending ends =>
    obtain ⟨token, words, ⟨c, more, spelled, stands⟩, none, rfl⟩ :=
      List.forall₂_cons_right_iff.mp written
    cases none
    have setOff : SetOff ending.toList ∧ Trivia False ending.toList := by
      rcases ends with rfl | separator
      · exact ⟨setOff_nil, .nil⟩
      · have setOff := separator.setOff []
        rw [List.append_nil] at setOff
        exact ⟨setOff, separator.trivia⟩
    rw [String.toList_append, spelled] at enough ⊢
    simp only [List.length_append, List.length_cons] at enough
    obtain ⟨fuel, rfl⟩ := Nat.exists_eq_succ_of_ne_zero (n := fuel) (by omega)
    obtain ⟨again, later, same, read⟩ := readFrom_piece trivia stands setOff.1 (fuel + 1) place
    obtain ⟨span, ended⟩ := @readFrom_trivia _ fuel setOff.2 later
    rw [ended] at read
    exact ⟨[again], span, read, .cons same .nil⟩
  | @more piece between next rest pieces separator others ih =>
    obtain ⟨token, words, ⟨c, more, spelled, stands⟩, writtenOthers, rfl⟩ :=
      List.forall₂_cons_right_iff.mp written
    rw [String.toList_append, String.toList_append, spelled, List.append_assoc] at enough ⊢
    simp only [List.length_append, List.length_cons] at enough
    obtain ⟨fuel, rfl⟩ := Nat.exists_eq_succ_of_ne_zero (n := fuel) (by omega)
    obtain ⟨again, later, same, read⟩ :=
      readFrom_piece trivia stands (separator.setOff rest.toList) (fuel + 1) place
    have room : (between.toList ++ rest.toList).length < fuel + 1 := by
      rw [List.length_append]
      omega
    obtain ⟨others, span, readOthers, sameOthers⟩ :=
      ih writtenOthers separator.trivia later fuel room
    rw [readOthers] at read
    exact ⟨again :: others, span, read, .cons same sameOthers⟩

/-- Blanks and comments only separate: when the pieces of a formula that its tokens cover are put
together again with other blanks and comments, the tokens are the same words. -/
theorem tokenize_respaced (read : tokenize source = .ok tokens) :
    ∃ slices, tokens.dropLast.map (·.span.slice? source) = slices.map some ∧
      ∀ lead body : String, Trivia False lead.toList → Woven slices body →
        ∃ again, tokenize (lead ++ body) = .ok again ∧ List.Forall₂ SameWord tokens again := by
  obtain ⟨words, span, slices, rfl, cut, written⟩ := (tokenize_tiled read).pieces rfl
  rw [List.dropLast_concat]
  refine ⟨slices, cut, fun lead body trivia woven => ?_⟩
  have enough : (lead.toList ++ body.toList).length < (lead ++ body).toList.length + 1 := by
    rw [String.toList_append]
    exact Nat.lt_succ_self _
  obtain ⟨again, last, all, same⟩ := readFrom_woven woven written trivia enough Position.start
  refine ⟨again ++ [.word .endOfInput "" last], ?_, ?_⟩
  · rw [tokenize, readAll, Cursor.ofSource, String.toList_append]
    rw [String.toList_append] at all
    rw [all]
  · exact List.rel_append same (.cons ⟨rfl, rfl, rfl⟩ .nil)

/-- A sign of division that no longer touches its operands, and a keyword as a name. -/
theorem tokenize_respaced_quotient :
    ∃ tokens again, tokenize "a/@is" = .ok tokens ∧ tokens.length = 4 ∧
      tokenize ("/*b*/" ++ "a //c\n/\t@is ") = .ok again ∧
      List.Forall₂ SameWord tokens again := by
  obtain ⟨tokens, read, four, pieces⟩ : ∃ tokens, tokenize "a/@is" = .ok tokens ∧
      tokens.length = 4 ∧ tokens.dropLast.map (·.span.slice? "a/@is") =
        ["a", "/", "@is"].map some := exists_ok_that (by decide +kernel)
  obtain ⟨slices, cut, respaced⟩ := tokenize_respaced read
  have known : slices = ["a", "/", "@is"] :=
    (List.map_inj_right fun _ _ => Option.some.inj).mp (cut.symm.trans pieces)
  subst known
  have lead : Trivia False "/*b*/".toList := @Trivia.block False ['b'] [] (by decide) .nil
  have comment : Separator " //c\n" :=
    ⟨.blank rfl (@Trivia.line False ['c'] [] (by decide) .nil), ' ', _, rfl, rfl⟩
  have tab : Separator "\t" := ⟨.blank rfl .nil, '\t', _, rfl, rfl⟩
  have space : Separator " " := ⟨.blank rfl .nil, ' ', _, rfl, rfl⟩
  have woven : Woven ["a", "/", "@is"] "a //c\n/\t@is " :=
    .more comment (.more tab (.last (.inr space)))
  obtain ⟨again, readAgain, same⟩ := respaced _ _ lead woven
  exact ⟨tokens, again, read, four, readAgain, same⟩

end Token

end Formula
