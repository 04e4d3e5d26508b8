import RefinementTypes.Yaml.Reading

/-! Integers as text. The decimal digits of an integer of 64 bits are read as that integer, and whatever is read as one,
from any node, has a place among them. -/

namespace RefinementTypes.Yaml

def digitsOf (value : Int) : List Char :=
  if 0 ≤ value then Nat.toDigits 10 value.toNat else '-' :: Nat.toDigits 10 (-value).toNat

theorem toList_toString (value : Int) : (toString value).toList = digitsOf value := by
  rw [Int.toString_eq_repr, Int.repr_eq_if, digitsOf]
  split
  next => exact Nat.toList_repr
  next => rw [String.toList_append, Nat.toList_repr]; rfl

private theorem digitValue?_of_isDigit {c : Char} (digit : c.isDigit = true) :
    digitValue? c = some (c.toNat - '0'.toNat) ∧ c.toNat - '0'.toNat < 10 := by
  obtain ⟨low, high⟩ : '0' ≤ c ∧ c ≤ '9' := by
    rw [Char.isDigit, Bool.and_eq_true, decide_eq_true_eq, decide_eq_true_eq] at digit
    exact digit
  refine ⟨if_pos ⟨low, high⟩, ?_⟩
  have above : c.toNat ≤ '9'.toNat := high
  have nine : '9'.toNat = '0'.toNat + 9 := rfl
  omega

private theorem ofDigits?_eq {digits : List Char} (all : ∀ c ∈ digits, c.isDigit = true) :
    ofDigits? 10 digits = some (Nat.ofDigitChars 10 digits 0) := by
  unfold ofDigits?
  generalize 0 = start
  induction digits generalizing start with
  | nil => rfl
  | cons c rest ih =>
    obtain ⟨here, others⟩ := List.forall_mem_cons.mp all
    obtain ⟨value, small⟩ := digitValue?_of_isDigit here
    have pushed : pushDigit 10 (some start) c = some (10 * start + (c.toNat - '0'.toNat)) := by
      unfold pushDigit
      rw [value]
      exact if_pos small
    rw [List.foldl_cons, pushed, ih others, Nat.ofDigitChars_cons]

private theorem toDigits_leading_zero {value : Nat} {rest : List Char} (digits : Nat.toDigits 10 value = '0' :: rest) :
    value = 0 := by
  induction value using Nat.strongRecOn generalizing rest with
  | ind value ih =>
    rw [Nat.toDigits_eq_if (by decide)] at digits
    split at digits
    next small =>
      obtain ⟨first, _⟩ := List.cons.inj digits
      have code := Nat.toNat_digitChar_of_lt_ten small
      rw [first] at code
      have zero : '0'.toNat = 48 := rfl
      omega
    next large =>
      obtain ⟨c, more, front⟩ := List.exists_cons_of_ne_nil (Nat.toDigits_ne_nil (n := value / 10) (b := 10))
      rw [front] at digits
      obtain ⟨rfl, _⟩ := List.cons.inj digits
      have nothing := ih (value / 10) (by omega) front
      omega

theorem isDigit_of_mem_digits {value : Nat} : ∀ c ∈ Nat.toDigits 10 value, c.isDigit = true :=
  fun _ member => Nat.isDigit_of_mem_toDigits (by decide) (by decide) member

private theorem markedNat?_toDigits (value : Nat) : markedNat? (Nat.toDigits 10 value) = some value := by
  obtain ⟨c, rest, digits⟩ := List.exists_cons_of_ne_nil (Nat.toDigits_ne_nil (n := value) (b := 10))
  by_cases zero : c = '0'
  · subst zero
    rw [toDigits_leading_zero digits]
    rfl
  · have read : markedNat? (c :: rest) = ofDigits? 10 (c :: rest) := by
      unfold markedNat?
      split
      next none => cases none
      next same => exact absurd (List.cons.inj same).1 zero
      next same => exact absurd (List.cons.inj same).1 zero
      next => rfl
    rw [digits, read, ← digits, ofDigits?_eq isDigit_of_mem_digits, Nat.ofDigitChars_ten_toDigits]

theorem digitsOf_inj {value value' : Int} (same : digitsOf value = digitsOf value') : value = value' := by
  have natural {n m : Nat} (equal : Nat.toDigits 10 n = Nat.toDigits 10 m) : n = m := by
    have read := markedNat?_toDigits n
    rw [equal, markedNat?_toDigits] at read
    exact (Option.some.inj read).symm
  have unsigned {n : Nat} {rest : List Char} (equal : Nat.toDigits 10 n = '-' :: rest) : False := by
    have digit := isDigit_of_mem_digits '-' (equal ▸ List.mem_cons_self)
    exact absurd digit (by decide)
  unfold digitsOf at same
  split at same <;> split at same
  next => have equal := natural same; omega
  next => exact (unsigned same).elim
  next => exact (unsigned same.symm).elim
  next => have equal := natural (List.cons.inj same).2; omega

private theorem signed?_digits (read : List Char → Option Nat) {digits : List Char}
    (all : ∀ c ∈ digits, c.isDigit = true) : signed? read digits = (read digits).bind fun n => int64? n := by
  unfold signed?
  split
  next => exact absurd (all '+' List.mem_cons_self) (by decide)
  next => exact absurd (all '-' List.mem_cons_self) (by decide)
  next => rfl

def InInt64 (value : Int) : Prop := minInt64 ≤ value ∧ value ≤ maxInt64

instance : DecidablePred InInt64 := fun value => inferInstanceAs (Decidable (minInt64 ≤ value ∧ value ≤ maxInt64))

private theorem int64?_eq_some {value result : Int} : int64? value = some result ↔ value = result ∧ InInt64 result := by
  unfold int64? InInt64
  split
  next inside =>
    rw [Option.some.injEq]
    exact ⟨fun same => ⟨same, same ▸ inside⟩, And.left⟩
  next outside =>
    refine ⟨(by cases ·), ?_⟩
    rintro ⟨rfl, inside⟩
    exact absurd inside outside

private theorem integer?_digitsOf {value : Int} (inside : InInt64 value) : integer? (digitsOf value) = some value := by
  have read : signed? markedNat? (digitsOf value) = some value := by
    unfold digitsOf
    split
    next positive =>
      rw [signed?_digits markedNat? isDigit_of_mem_digits, markedNat?_toDigits, Option.bind_some,
        Int.toNat_of_nonneg positive]
      exact int64?_eq_some.mpr ⟨rfl, inside⟩
    next negative =>
      rw [signed?, markedNat?_toDigits, Option.bind_some, Int.toNat_of_nonneg (by omega), Int.neg_neg]
      exact int64?_eq_some.mpr ⟨rfl, inside⟩
  rw [integer?, read]
  rfl

private theorem date_digits {digits : List Char} (all : ∀ c ∈ digits, c.isDigit = true) :
    Timestamp.date digits = none := by
  unfold Timestamp.date
  split
  next a b c d rest =>
    have unsigned : Timestamp.char '-' rest = none := by
      cases rest with
      | nil => rfl
      | cons e rest =>
        refine if_neg ?_
        rintro rfl
        exact absurd (all '-' (by simp)) (by decide)
    simp [unsigned]
  next => rfl

private theorem date_sign (rest : List Char) : Timestamp.date ('-' :: rest) = none := by
  unfold Timestamp.date
  split
  next a b c d rest same =>
    cases same
    rfl
  next => rfl

/-- A date has a sign behind its year, and none before it. -/
theorem matchesText_digitsOf (value : Int) : Timestamp.matchesText (digitsOf value) = false := by
  have none : Timestamp.date (digitsOf value) = none := by
    unfold digitsOf
    split
    next => exact date_digits isDigit_of_mem_digits
    next => exact date_sign _
  rw [Timestamp.matchesText, none]

private theorem filter_digitsOf (value : Int) : (digitsOf value).filter (· ≠ '_') = digitsOf value := by
  refine List.filter_eq_self.mpr fun c member => decide_eq_true ?_
  rintro rfl
  unfold digitsOf at member
  split at member
  next => exact Nat.underscore_not_in_toDigits member
  next =>
    rcases List.mem_cons.mp member with same | member
    · cases same
    · exact Nat.underscore_not_in_toDigits member

private theorem ofNumeral_digitsOf {value : Int} (inside : InInt64 value) :
    Scalar.ofNumeral (digitsOf value) = .int value := by
  unfold Scalar.ofNumeral
  dsimp only
  rw [matchesText_digitsOf, filter_digitsOf, integer?_digitsOf inside]
  rfl

/-- Whether a text begins with a digit, or with one behind a minus sign. -/
def leadsDigit : List Char → Bool
  | '-' :: c :: _ => c.isDigit
  | c :: _ => c.isDigit
  | [] => false

private theorem leadsDigit_digitsOf (value : Int) : leadsDigit (digitsOf value) = true := by
  have first (digits : Nat) : ∃ c rest, Nat.toDigits 10 digits = c :: rest ∧ c.isDigit = true := by
    obtain ⟨c, rest, same⟩ := List.exists_cons_of_ne_nil (Nat.toDigits_ne_nil (n := digits) (b := 10))
    exact ⟨c, rest, same, isDigit_of_mem_digits c (same ▸ List.mem_cons_self)⟩
  unfold digitsOf
  split
  next =>
    obtain ⟨c, rest, same, digit⟩ := first value.toNat
    rw [same]
    unfold leadsDigit
    split
    next sign =>
      obtain ⟨rfl, _⟩ := List.cons.inj sign
      cases digit
    next other =>
      obtain ⟨rfl, _⟩ := List.cons.inj other
      exact digit
    next none => cases none
  next =>
    obtain ⟨c, rest, same, digit⟩ := first (-value).toNat
    rw [same]
    exact digit

private theorem lookup_words (value : Int) : Scalar.words.lookup (toString value) = none := by
  have others : ∀ entry ∈ Scalar.words, leadsDigit entry.1.toList = false := by decide +kernel
  refine List.lookup_eq_none_iff.mpr fun entry member => bne_iff_ne.mpr fun same => ?_
  have digit := leadsDigit_digitsOf value
  rw [← toList_toString, same, others entry member] at digit
  cases digit

private theorem ofPlain_toString {value : Int} (inside : InInt64 value) :
    Scalar.ofPlain (toString value) = .int value := by
  have digit := leadsDigit_digitsOf value
  unfold Scalar.ofPlain
  rw [lookup_words, toList_toString]
  cases same : digitsOf value with
  | nil =>
    rw [same] at digit
    cases digit
  | cons c rest =>
    dsimp only
    have numeral : c ≠ '.' ∧ (c.isDigit = true ∨ c = '+' ∨ c = '-') := by
      rw [same] at digit
      unfold leadsDigit at digit
      split at digit
      next sign =>
        obtain ⟨rfl, _⟩ := List.cons.inj sign
        exact ⟨by decide, .inr (.inr rfl)⟩
      next other =>
        obtain ⟨rfl, _⟩ := List.cons.inj other
        refine ⟨?_, .inl digit⟩
        rintro rfl
        cases digit
      next none => cases none
    rw [if_neg numeral.1, if_pos numeral.2, ← same, ofNumeral_digitsOf inside]

theorem Node.followed_self {node : Node} (reference : node.kind ≠ .reference) (document : node.kind ≠ .document) :
    node.followed = node := by
  unfold Node.followed
  split
  next => exact absurd rfl reference
  next => exact absurd rfl document
  next => rfl

/-- A text that is not quoted and has no tag. -/
structure Node.IsPlain (text : String) (node : Node) : Prop where
  kind : node.kind = .scalar
  value : node.value = text
  tag : node.tag = ""
  quoted : node.quoted = false

namespace Node.IsPlain

variable {text : String} {node : Node}

private theorem followed (plain : IsPlain text node) : node.followed = node :=
  followed_self (by simp [plain.kind]) (by simp [plain.kind])

private theorem resolve (plain : IsPlain text node) : node.resolve = Scalar.ofPlain text := by
  simp [Node.resolve, plain.quoted, plain.tag, plain.value]

/-- The decimal digits of an integer are read as that integer. -/
theorem readInt {value : Int} (inside : InInt64 value) (plain : IsPlain (toString value) node) :
    node.readInt = .some value := by
  have resolved : node.resolve = .int value := plain.resolve.trans (ofPlain_toString inside)
  have accepted : acceptInt node.value (.int value) = some value := int64?_eq_some.mpr ⟨rfl, inside⟩
  unfold Node.readInt readScalar
  simp only [plain.followed, plain.kind, resolved, accepted]

theorem readBool {value : Bool} (plain : IsPlain (toString value) node) : node.readBool = .some value := by
  have resolved : node.resolve = .bool value := by
    rw [plain.resolve]
    cases value <;> rfl
  unfold Node.readBool readScalar
  simp only [plain.followed, plain.kind, resolved]
  rfl

end Node.IsPlain

private theorem toInt64?_inInt64 {number : Binary64} {value : Int} (cut : number.toInt64? = some value) :
    InInt64 value := by
  have least : InInt64 minInt64 := by decide
  have width : Binary64.power 63 = 9223372036854775808 := by decide
  unfold InInt64 minInt64 maxInt64 at *
  cases number with
  | nan => cases cut
  | infinite negative =>
    cases negative with
    | true =>
      cases cut
      exact least
    | false => cases cut
  | finite negative significand exponent =>
    cases negative with
    | true =>
      cases cut
      unfold minInt64
      omega
    | false =>
      unfold Binary64.toInt64? at cut
      dsimp only at cut
      split at cut
      next small =>
        cases cut
        omega
      next =>
        split at cut
        next =>
          cases cut
          exact least
        next => cases cut

private theorem acceptInt_inInt64 {text : String} {scalar : Scalar} {value : Int}
    (accepted : Node.acceptInt text scalar = some value) : InInt64 value := by
  cases scalar with
  | int number => exact (int64?_eq_some.mp accepted).2
  | float number => exact toInt64?_inInt64 accepted
  | null | bool | timestamp | text => cases accepted

private theorem mappingMismatch_value {α : Type} (node : Node) (target : String) :
    (node.mappingMismatch target : Reading α).value = none := by
  unfold Node.mappingMismatch
  split <;> rfl

private theorem scalarMismatch_value {α : Type} (node : Node) (target : String) :
    (node.scalarMismatch target : Reading α).value = none := by
  unfold Node.scalarMismatch
  split <;> rfl

theorem readInt_inInt64 {node : Node} {value : Int} (read : node.readInt.value = some value) : InInt64 value := by
  unfold Node.readInt Node.readScalar at read
  dsimp only at read
  split at read
  next =>
    split at read
    next => cases read
    next =>
      split at read
      next result accepted =>
        cases read
        exact acceptInt_inInt64 accepted
      next => cases read
  next => cases read
  next =>
    rw [mappingMismatch_value] at read
    cases read
  all_goals cases read

theorem readInts_inInt64 {node : Node} {values : List Int}
    (read : (node.readSequence "[]int64" Node.readInt).value = some values) : ∀ value ∈ values, InInt64 value := by
  unfold Node.readSequence at read
  dsimp only at read
  split at read
  next =>
    rw [scalarMismatch_value] at read
    cases read
  next =>
    cases read
    intro value member
    obtain ⟨reading, listed, given⟩ := List.mem_filterMap.mp member
    obtain ⟨item, _, rfl⟩ := List.mem_map.mp listed
    exact readInt_inInt64 given
  next =>
    rw [mappingMismatch_value] at read
    cases read
  all_goals cases read

end RefinementTypes.Yaml
