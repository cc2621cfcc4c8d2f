import RegisterMachine.Proofs.Opcode

set_option autoImplicit false
set_option relaxedAutoImplicit false

/-!
# Kinds of results

A number is an integer or a double, and truth values count as integers. The kind of a result is
fixed by the operation, or by the kinds of its operands. The exception is a quotient that is rounded
down: it is an integer, but a quotient of doubles that is infinite or not a number is left as it is.

## Main definitions

* `RegisterMachine.Kind` — the two kinds of numbers.
* `RegisterMachine.Number.kind`, `RegisterMachine.Number.HasKind` — what an operand counts as, and
  what a result is.
* `RegisterMachine.BinaryOp.resultKind`, `RegisterMachine.UnaryOp.resultKind` — the kind that an
  operation promises.
* `RegisterMachine.Number.LeavesQuotient` — the exception.

## Main results

* `RegisterMachine.Number.eq_of_scalars` — two integers are computed with as integers, all other
  pairs as doubles.
* `RegisterMachine.Number.hasKind_of_idiv` — the kind of a quotient that is rounded down.
* `RegisterMachine.Number.results_have_kinds` — results are of the kinds that are promised.
* `RegisterMachine.Number.quotient_is_infinite` — the exception is met by two finite numbers.
-/

namespace RegisterMachine

/-- The two kinds of numbers. -/
inductive Kind
  | integer
  | double
  deriving DecidableEq, Repr

/-- The kind of what is computed from two numbers: a double on either side makes it a double. -/
def Kind.join : Kind → Kind → Kind
  | .integer, .integer => .integer
  | _, _ => .double

namespace Number

/-- What a number counts as in arithmetic. -/
def kind (a : Number) : Kind :=
  match a.scalar with
  | .int _ => .integer
  | .double _ => .double

/-- A number is of a kind as it stands, which truth values are not. -/
inductive HasKind : Number → Kind → Prop
  | int (n : Int) : HasKind (.int n) .integer
  | double (x : Float) : HasKind (.double x) .double

end Number

/-- The kind that an operation on two numbers promises. -/
def BinaryOp.resultKind (op : BinaryOp) (left right : Kind) : Kind :=
  match op with
  | .div | .pow => .double
  | .idiv | .and | .or | .xor | .shl | .shr => .integer
  | .add | .sub | .mul | .mod => left.join right

/-- The kind that an operation on one number promises. -/
def UnaryOp.resultKind (op : UnaryOp) (operand : Kind) : Kind :=
  match op with
  | .sqrt => .double
  | .not => .integer
  | .inc | .dec => operand

namespace Number

variable {a b result : Number}

/-! ## Integers and doubles as operands -/

lemma kind_of_int {n : Int} (h : a.scalar = .int n) : a.kind = .integer := by
  simp only [kind, h]

/-- Unless two numbers both count as integers, they make a double. -/
lemma join_kind_eq_double (h : ∀ m n : Int, a.scalar = .int m → b.scalar = .int n → False) :
    a.kind.join b.kind = .double := by
  unfold kind
  cases ha : a.scalar with
  | double x => cases b.scalar <;> rfl
  | int m =>
    cases hb : b.scalar with
    | double y => rfl
    | int n => exact absurd hb fun hb => h m n ha hb

/-- **Two integers are computed with as integers, all other pairs as doubles.** -/
lemma eq_of_scalars (onInts : Int → Int → Except Cause Number) (onDoubles : Float → Float → Number)
    (h : (match a.scalar, b.scalar with
      | .int m, .int n => onInts m n
      | s, t => do return onDoubles (← s.toDouble) (← t.toDouble)) = .ok result) :
    (a.kind.join b.kind = .integer ∧ ∃ m n, onInts m n = .ok result) ∨
    (a.kind.join b.kind = .double ∧ ∃ x y, a.scalar.toDouble = .ok x ∧ b.scalar.toDouble = .ok y ∧
      result = onDoubles x y) := by
  split at h
  · next m n hm hn =>
    refine .inl ⟨?_, m, n, h⟩
    rw [kind_of_int hm, kind_of_int hn]
    rfl
  · next hints =>
    simp only [Except.bind_eq_ok, Except.pure_eq_ok] at h
    obtain ⟨x, hx, y, hy, rfl⟩ := h
    exact .inr ⟨join_kind_eq_double hints, x, y, hx, hy, rfl⟩

/-- An operation that wraps integers and leaves doubles gives a number of the kind that its operands
make. -/
lemma hasKind_of_lift {onInts : Int → Int → Int} {onDoubles : Float → Float → Float}
    (h : lift onInts onDoubles a b = .ok result) : result.HasKind (a.kind.join b.kind) := by
  obtain ⟨hkind, m, n, hresult⟩ | ⟨hkind, x, y, -, -, rfl⟩ := eq_of_scalars
    (fun m n => .ok (.int (wrap (onInts m n)))) (fun x y => .double (onDoubles x y)) h
  · cases hresult
    rw [hkind]
    exact .int _
  · rw [hkind]
    exact .double _

/-- One is an integer, so that the next number is of the kind of the number. -/
lemma join_kind_one : a.kind.join (Number.int 1).kind = a.kind := by
  cases a.kind <;> rfl

/-! ## Division -/

/-- A quotient is a double. -/
lemma hasKind_of_div (h : div a b = .ok result) : result.HasKind .double := by
  unfold div at h
  split at h
  · cases h
  · obtain ⟨-, m, n, hresult⟩ | ⟨-, x, y, -, -, rfl⟩ :=
      eq_of_scalars divideInts (fun x y => .double (x / y)) h
    · obtain ⟨x, -, rfl⟩ := Except.map_eq_ok.1 hresult
      exact .double x
    · exact .double _

/-- A remainder is of the kind that dividend and divisor make. -/
lemma hasKind_of_mod (h : mod a b = .ok result) : result.HasKind (a.kind.join b.kind) := by
  unfold mod at h
  split at h
  · cases h
  · obtain ⟨hkind, m, n, hresult⟩ | ⟨hkind, x, y, -, -, rfl⟩ :=
      eq_of_scalars (fun m n => .ok (.int (m.fmod n)))
        (fun x y => .double (Double.flooredRemainder x y)) h
    · cases hresult
      rw [hkind]
      exact .int _
    · rw [hkind]
      exact .double _

/-- The result is the quotient of two numbers as doubles, one of which is a double, and it could not
be rounded down to an integer because it is infinite or not a number. -/
inductive LeavesQuotient (a b : Number) : Number → Prop
  | intro {x y : Float} (hkind : a.kind.join b.kind = .double) (hleft : a.scalar.toDouble = .ok x)
      (hright : b.scalar.toDouble = .ok y)
      (hfinite : (Double.exact (Double.flooredQuotient x y)).isFinite = false) :
      LeavesQuotient a b (.double (Double.flooredQuotient x y))

/-- A double that is not finite is left as it is. -/
lemma ofQuotient_of_not_isFinite {x : Float} (h : (Double.exact x).isFinite = false) :
    ofQuotient x = .double x := by
  unfold ofQuotient
  cases hexact : Double.exact x with
  | finite negative units => simp [hexact, Exact.isFinite] at h
  | infinite negative | nan => rfl

/-- A double is rounded down to an integer unless it is not finite, and then it is left as it is. -/
lemma hasKind_ofQuotient (x : Float) : (ofQuotient x).HasKind .integer ∨
    (ofQuotient x = .double x ∧ (Double.exact x).isFinite = false) := by
  cases hfinite : (Double.exact x).isFinite with
  | false => exact .inr ⟨ofQuotient_of_not_isFinite hfinite, rfl⟩
  | true =>
    unfold ofQuotient
    cases hexact : Double.exact x with
    | finite negative units => exact .inl (.int _)
    | infinite negative | nan => simp [hexact, Exact.isFinite] at hfinite

/-- **A quotient that is rounded down is an integer**, unless it is one of doubles that is not
finite. -/
lemma hasKind_of_idiv (h : idiv a b = .ok result) :
    result.HasKind .integer ∨ LeavesQuotient a b result := by
  unfold idiv at h
  split at h
  · cases h
  · obtain ⟨-, m, n, hresult⟩ | ⟨hkind, x, y, hx, hy, rfl⟩ :=
      eq_of_scalars (fun m n => .ok (.int (m.fdiv n)))
        (fun x y => ofQuotient (Double.flooredQuotient x y)) h
    · cases hresult
      exact .inl (.int _)
    · refine (hasKind_ofQuotient (Double.flooredQuotient x y)).imp_right fun ⟨hleft, hfinite⟩ => ?_
      rw [hleft]
      exact .intro hkind hx hy hfinite

/-- **A quotient of doubles that is not finite is given back**, whenever the divisor is not zero. -/
lemma idiv_of_leavesQuotient (hzero : b.isZero = false) (h : LeavesQuotient a b result) :
    idiv a b = .ok result := by
  obtain ⟨hkind, hleft, hright, hfinite⟩ := h
  unfold idiv
  rw [if_neg (by simp [hzero])]
  split
  · next m n hm hn =>
    rw [kind_of_int hm, kind_of_int hn] at hkind
    cases hkind
  · rw [hleft, hright]
    exact congrArg Except.ok (ofQuotient_of_not_isFinite hfinite)

/-! ## Powers and roots -/

/-- A power is a double. -/
lemma hasKind_of_pow (h : pow a b = .ok result) : result.HasKind .double := by
  unfold pow at h
  split at h <;> cases h <;> exact .double _

/-- A square root is a double. -/
lemma hasKind_of_sqrt (h : sqrt a = .ok result) : result.HasKind .double := by
  unfold sqrt at h
  split at h
  · cases h
    exact .double _
  · simp only [Except.bind_eq_ok, Except.pure_eq_ok] at h
    obtain ⟨x, -, rfl⟩ := h
    exact .double _

/-! ## Operations on bits -/

/-- An operation on words gives an integer. -/
lemma hasKind_of_onWords {op : BitVec 64 → BitVec 64 → BitVec 64}
    (h : onWords op a b = .ok result) : result.HasKind .integer := by
  simp only [onWords, Except.bind_eq_ok, Except.pure_eq_ok] at h
  obtain ⟨_, -, _, -, rfl⟩ := h
  exact .int _

/-- A complement is an integer. -/
lemma hasKind_of_not (h : not a = .ok result) : result.HasKind .integer := by
  simp only [not, Except.bind_eq_ok, Except.pure_eq_ok] at h
  obtain ⟨_, -, rfl⟩ := h
  exact .int _

/-- A shifted word is an integer, also if nothing is left of it. -/
lemma hasKind_of_shift {left : Bool} (h : shift left a b = .ok result) :
    result.HasKind .integer := by
  have hword : ∀ left count, shiftWord left a count = .ok result → result.HasKind .integer := by
    intro left count hshift
    unfold shiftWord at hshift
    split at hshift
    · cases hshift
      exact .int 0
    · simp only [Except.bind_eq_ok, Except.pure_eq_ok] at hshift
      obtain ⟨_, -, rfl⟩ := hshift
      exact .int _
  simp only [shift, Except.bind_eq_ok] at h
  obtain ⟨count, -, h⟩ := h
  split at h <;> exact hword _ _ h

/-! ## Operations by their codes -/

/-- **Results are of the kinds that their operations promise.** A quotient, a power and a root are
doubles; a quotient that is rounded down and the results of operations on bits are integers; sums,
differences, products, remainders and the numbers before and after a number are integers if all
operands are, and doubles otherwise. The one exception is a quotient of doubles that is infinite or
not a number: it is given back as the double that it is, and always so.

**Proof sketch.** Two integers are computed with as integers, and all other pairs as doubles
(`eq_of_scalars`). Rounding a double down gives an integer if the double is finite
(`hasKind_ofQuotient`), and leaves it otherwise (`ofQuotient_of_not_isFinite`). -/
theorem results_have_kinds :
    (∀ (op : BinaryOp) (a b result : Number), op.apply a b = .ok result →
      result.HasKind (op.resultKind a.kind b.kind) ∨ (op = .idiv ∧ LeavesQuotient a b result)) ∧
    (∀ a b quotient : Number, b.isZero = false → LeavesQuotient a b quotient →
      BinaryOp.idiv.apply a b = .ok quotient ∧ quotient.HasKind .double) ∧
    ∀ (op : UnaryOp) (a result : Number), op.apply a = .ok result →
      result.HasKind (op.resultKind a.kind) := by
  refine ⟨fun op a b result h => ?_, fun a b quotient hzero h => ?_, fun op a result h => ?_⟩
  · cases op with
    | idiv => exact (hasKind_of_idiv h).imp_right fun hleft => ⟨rfl, hleft⟩
    | add | sub | mul => exact .inl (hasKind_of_lift h)
    | mod => exact .inl (hasKind_of_mod h)
    | div => exact .inl (hasKind_of_div h)
    | pow => exact .inl (hasKind_of_pow h)
    | and | or | xor => exact .inl (hasKind_of_onWords h)
    | shl | shr => exact .inl (hasKind_of_shift h)
  · refine ⟨idiv_of_leavesQuotient hzero h, ?_⟩
    cases h
    exact .double _
  · cases op with
    | sqrt => exact hasKind_of_sqrt h
    | not => exact hasKind_of_not h
    | inc | dec =>
      have hkind : result.HasKind (a.kind.join (Number.int 1).kind) := hasKind_of_lift h
      rwa [join_kind_one] at hkind

/-- A remainder of an integer and a double is a double, a quotient beyond all doubles is given back
when it is rounded down, and the number after a truth value is an integer. -/
theorem results_have_kinds_of_mixed_operands :
    BinaryOp.mod.apply (.int 7) (.double 5.5) = .ok (.double 1.5) ∧
      (Number.double 1.5).HasKind .double ∧
      BinaryOp.idiv.apply (.double 1e308) (.double 0.5) = .ok (.double (Double.infinity false)) ∧
      UnaryOp.inc.apply (.truth true) = .ok (.int 2) ∧ (Number.int 2).HasKind .integer := by
  have hmod : BinaryOp.mod.apply (.int 7) (.double 5.5) = .ok (.double 1.5) := by decide +kernel
  have hinc : UnaryOp.inc.apply (.truth true) = .ok (.int 2) := by decide +kernel
  have hdouble : (Number.double 1.5).HasKind .double :=
    (results_have_kinds.1 .mod _ _ _ hmod).resolve_right fun hidiv => by cases hidiv.1
  have hquotient : Double.flooredQuotient 1e308 0.5 = Double.infinity false := by decide +kernel
  have hleft : LeavesQuotient (.double 1e308) (.double 0.5) (.double (Double.infinity false)) := by
    rw [← hquotient]
    exact .intro rfl rfl rfl (by decide +kernel)
  have hzero : (Number.double 0.5).isZero = false := by decide +kernel
  exact ⟨hmod, hdouble, (results_have_kinds.2.1 _ _ _ hzero hleft).1, hinc,
    results_have_kinds.2.2 .inc _ _ hinc⟩

/-- **A quotient of finite numbers that is rounded down is no integer** if it is beyond all
doubles. -/
theorem quotient_is_infinite :
    BinaryOp.idiv.apply (.double 1e308) (.double 0.5) = .ok (.double (Double.infinity false)) ∧
      ¬ ∀ result, BinaryOp.idiv.apply (.double 1e308) (.double 0.5) = .ok result →
        result.HasKind .integer := by
  have hquotient : BinaryOp.idiv.apply (.double 1e308) (.double 0.5) =
      .ok (.double (Double.infinity false)) := by decide +kernel
  exact ⟨hquotient, fun hinteger => nomatch hinteger _ hquotient⟩

end Number

end RegisterMachine
