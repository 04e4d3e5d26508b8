import RefinementTypes.Text.Quoted
import RefinementTypes.Yaml.Integer

/-! Quoted text tells where it ends. The letter behind a backslash says how many digits belong to it and what they stand
for, so a written character can be told from whatever follows it, and the first quote that no backslash precedes is the
last. -/

namespace RefinementTypes.Text

private theorem digitValue?_digitChar : ∀ value < 16, Yaml.digitValue? (Nat.digitChar value) = some value := by
  decide

private theorem length_hexDigits (width value : Nat) : (hexDigits width value).length = width := by
  induction width generalizing value with
  | zero => rfl
  | succ width ih => rw [hexDigits, List.length_append, ih, List.length_singleton]

/-- Digits are read as the number that they were made of, if there is room for it. -/
theorem ofDigits?_hexDigits {width value : Nat} (small : value < Nat.pow 16 width) :
    Yaml.ofDigits? 16 (hexDigits width value) = some value := by
  induction width generalizing value with
  | zero =>
    have zero : value = 0 := Nat.lt_one_iff.mp small
    rw [zero]
    rfl
  | succ width ih =>
    have high : value / 16 < Nat.pow 16 width := Nat.div_lt_of_lt_mul (Nat.mul_comm _ _ ▸ small)
    have low : value % 16 < 16 := Nat.mod_lt _ (by decide)
    have front := ih high
    unfold Yaml.ofDigits? at front ⊢
    rw [hexDigits, List.foldl_append, front, List.foldl_cons, List.foldl_nil, Yaml.pushDigit,
      digitValue?_digitChar _ low]
    simp [low, Nat.div_add_mod]

def escapeWidth : Char → Nat
  | 'x' => 2
  | 'u' => 4
  | 'U' => 8
  | _ => 0

def escapedCode? (letter : Char) (digits : List Char) : Option Nat :=
  match letter with
  | 'a' => some 0x07
  | 'b' => some 0x08
  | 'f' => some 0x0c
  | 'n' => some 0x0a
  | 'r' => some 0x0d
  | 't' => some 0x09
  | 'v' => some 0x0b
  | 'x' | 'u' | 'U' => Yaml.ofDigits? 16 digits
  | other => some other.toNat

/-- A character is written as it is or by an escape that stands for it. -/
inductive Written (c : Char) : List Char → Prop
  | plain (noQuote : c ≠ '"') (noEscape : c ≠ '\\') : Written c [c]
  | escape {letter : Char} {digits : List Char} (width : digits.length = escapeWidth letter)
      (code : escapedCode? letter digits = some c.toNat) : Written c ('\\' :: letter :: digits)

private theorem written_escapeChar (shown : Char → Bool) (c : Char) : Written c (escapeChar shown c) := by
  unfold escapeChar
  split
  next marked =>
    rcases marked with rfl | rfl
    · exact .escape rfl rfl
    · exact .escape rfl rfl
  next unmarked =>
    obtain ⟨noQuote, noEscape⟩ := not_or.mp unmarked
    split
    next => exact .plain noQuote noEscape
    next =>
      split
      case h_8 =>
        -- A code without a letter of its own is given as many digits as it needs.
        split
        next small =>
          refine .escape (length_hexDigits 2 _) (ofDigits?_hexDigits ?_)
          have bound : Nat.pow 16 2 = 256 := rfl
          omega
        next =>
          split
          next small => exact .escape (length_hexDigits 4 _) (ofDigits?_hexDigits small)
          next =>
            refine .escape (length_hexDigits 8 _) (ofDigits?_hexDigits (Nat.lt_of_lt_of_le c.val.toNat_lt ?_))
            decide
      all_goals next code => exact .escape rfl (congrArg some code.symm)

variable {c d : Char} {text text' rest rest' : List Char}

/-- What is written for a character can be told from what follows it. -/
theorem Written.append_inj {written written' : List Char} (first : Written c written) (second : Written d written')
    (same : written ++ rest = written' ++ rest') : c = d ∧ rest = rest' := by
  cases first with
  | plain _ noEscape =>
    cases second with
    | plain => exact List.cons.inj same
    | escape => exact absurd (List.cons.inj same).1 noEscape
  | escape width code =>
    cases second with
    | plain _ noEscape => exact absurd (List.cons.inj same).1.symm noEscape
    | escape width' code' =>
      obtain ⟨rfl, tails⟩ := List.cons.inj (List.cons.inj same).2
      obtain ⟨rfl, rests⟩ := List.append_inj tails (width.trans width'.symm)
      exact ⟨Char.toNat_inj.mp (Option.some.inj (code.symm.trans code')), rests⟩

private theorem Written.no_quote {written : List Char} (written' : Written c written) :
    written ++ text ≠ '"' :: rest := by
  intro same
  cases written' with
  | plain noQuote => exact noQuote (List.cons.inj same).1
  | escape => exact absurd (List.cons.inj same).1 (by decide)

private theorem quoteWith_append_inj (shown : Char → Bool)
    (same : quoteWith shown text ++ rest = quoteWith shown text' ++ rest') : text = text' ∧ rest = rest' := by
  have body : text.flatMap (escapeChar shown) ++ '"' :: rest = text'.flatMap (escapeChar shown) ++ '"' :: rest' := by
    simpa [quoteWith] using same
  clear same
  induction text generalizing text' with
  | nil =>
    cases text' with
    | nil => exact ⟨rfl, (List.cons.inj body).2⟩
    | cons d text' =>
      rw [List.flatMap_cons, List.append_assoc] at body
      exact absurd body.symm (written_escapeChar shown d).no_quote
  | cons c text ih =>
    rw [List.flatMap_cons, List.append_assoc] at body
    cases text' with
    | nil => exact absurd body (written_escapeChar shown c).no_quote
    | cons d text' =>
      rw [List.flatMap_cons, List.append_assoc] at body
      obtain ⟨here, behind⟩ := (written_escapeChar shown c).append_inj (written_escapeChar shown d) body
      obtain ⟨texts, rests⟩ := ih behind
      exact ⟨List.cons_eq_cons.mpr ⟨here, texts⟩, rests⟩

theorem quote_append_inj {text text' : String} (same : (quote text).toList ++ rest = (quote text').toList ++ rest') :
    text = text' ∧ rest = rest' := by
  unfold quote at same
  rw [String.toList_ofList, String.toList_ofList] at same
  obtain ⟨texts, rests⟩ := quoteWith_append_inj isPrintable same
  exact ⟨String.toList_inj.mp texts, rests⟩

end RefinementTypes.Text
