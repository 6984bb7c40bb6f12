/-
Command lines (Go's `flag` package, with `strconv.ParseInt`).

A set of flags is read from the front of a list of arguments.  A flag takes its value from
behind an equals sign or from the next argument, whatever that looks like; a boolean flag never
looks at the next argument.  What a flag does to the variables behind it is a parameter.

* `parseInt_itoa` — an integer is read back from its decimal text;
* `parse_switch`, `parse_args` — a line that gives each flag its value as an argument of its own
  sets the flags in that order.
-/
import ConsulApiGateway.Json
import Mathlib.Algebra.Ring.Int.Defs
import Mathlib.Algebra.Ring.Nat

namespace CommandLine

open GoStd (numText)

/-! ### Integers -/

/-- `strconv.Itoa`. -/
def itoa (n : ℤ) : String := String.ofList (numText n)

/-- The value of a digit in any base up to 36. -/
def digitValue (c : Char) : Option ℕ :=
  if c.isDigit then some (c.toNat - '0'.toNat)
  else if c.toLower.isLower then some (c.toLower.toNat - 'a'.toNat + 10)
  else none

/-- The base that a prefix stands for, and what follows it. -/
def basePrefix : List Char → ℕ × List Char
  | '0' :: c :: d :: cs =>
    if c.toLower = 'b' then (2, d :: cs)
    else if c.toLower = 'o' then (8, d :: cs)
    else if c.toLower = 'x' then (16, d :: cs)
    else (8, c :: d :: cs)
  | '0' :: cs => (8, cs)
  | cs => (10, cs)

/-- The loop of `ParseUint`, which skips underscores and stops at the first digit that does not
fit. -/
def readUint (base : ℕ) : List Char → ℕ → Except String ℕ
  | [], n => .ok n
  | c :: cs, n =>
    if c = '_' then readUint base cs n
    else match digitValue c with
      | none => .error "parse error"
      | some d =>
        if base ≤ d then .error "parse error"
        else if 2 ^ 64 ≤ base * n + d then .error "value out of range"
        else readUint base cs (base * n + d)

/-- Underscores stand between digits only; `saw` says whether the last character was a digit, an
underscore, or neither. -/
def underscoresBetween (hex : Bool) : List Char → Option Bool → Bool
  | [], saw => saw ≠ some false
  | c :: cs, saw =>
    if c.isDigit || hex && 'a' ≤ c.toLower && c.toLower ≤ 'f' then
      underscoresBetween hex cs (some true)
    else if c = '_' then saw = some true && underscoresBetween hex cs (some false)
    else saw ≠ some false && underscoresBetween hex cs none

/-- `underscoreOK`: a prefix counts as a digit. -/
def underscoreOK : List Char → Bool
  | '0' :: c :: cs =>
    if c.toLower = 'b' || c.toLower = 'o' || c.toLower = 'x' then
      underscoresBetween (c.toLower = 'x') cs (some true)
    else underscoresBetween false ('0' :: c :: cs) none
  | cs => underscoresBetween false cs none

/-- `strconv.ParseUint` in base 0, of 64 bits. -/
def parseUint (s : List Char) : Except String ℕ :=
  if s = [] then .error "parse error"
  else match readUint (basePrefix s).1 (basePrefix s).2 0 with
    | .error err => .error err
    | .ok n => if '_' ∈ s ∧ !underscoreOK s then .error "parse error" else .ok n

/-- What the digits of a negative number stand for. -/
def parseNegated (s : List Char) : Except String ℤ :=
  match parseUint s with
  | .error err => .error err
  | .ok n => if 2 ^ 63 < n then .error "value out of range" else .ok (-(n : ℤ))

def parseUnsigned (s : List Char) : Except String ℤ :=
  match parseUint s with
  | .error err => .error err
  | .ok n => if 2 ^ 63 ≤ n then .error "value out of range" else .ok n

/-- `strconv.ParseInt` in base 0, of 64 bits, with the errors of a flag. -/
def parseInt (s : String) : Except String ℤ :=
  match s.toList with
  | '-' :: cs => parseNegated cs
  | '+' :: cs => parseUnsigned cs
  | cs => parseUnsigned cs

/-- The text of an integer consists of digits and a sign. -/
theorem mem_itoa {n : ℤ} {c : Char} (hc : c ∈ (itoa n).toList) : c.isDigit = true ∨ c = '-' := by
  rw [itoa, String.toList_ofList] at hc
  cases n with
  | ofNat n => exact .inl (GoStd.isDigit_of_mem_toDigits hc)
  | negSucc n =>
    rcases List.mem_cons.1 hc with rfl | hc
    · exact .inr rfl
    · exact .inl (GoStd.isDigit_of_mem_toDigits hc)

/-- A Go `int` of 64 bits. -/
def IsInt (n : ℤ) : Prop := -2 ^ 63 ≤ n ∧ n < 2 ^ 63

theorem digitValue_of_isDigit {c : Char} (h : c.isDigit = true) :
    digitValue c = some (c.toNat - '0'.toNat) := by
  rw [digitValue, if_pos h]

theorem toNat_sub_lt_ten {c : Char} (h : c.isDigit = true) : c.toNat - '0'.toNat < 10 := by
  have h9 : c.toNat ≤ '9'.toNat := by
    simp only [Char.isDigit, Bool.and_eq_true, decide_eq_true_eq] at h
    exact h.2
  have : '9'.toNat = 57 := rfl
  have : '0'.toNat = 48 := rfl
  omega

theorem le_ofDigitChars (cs : List Char) (n : ℕ) : n ≤ Nat.ofDigitChars 10 cs n := by
  induction cs generalizing n with
  | nil => exact le_rfl
  | cons c cs ih =>
    rw [Nat.ofDigitChars_cons]
    exact le_trans (by omega) (ih _)

/-- The loop reads the digits of a number that fits. -/
theorem readUint_digits {cs : List Char} {n : ℕ} (hdigits : ∀ c ∈ cs, c.isDigit = true)
    (hfits : Nat.ofDigitChars 10 cs n < 2 ^ 64) :
    readUint 10 cs n = .ok (Nat.ofDigitChars 10 cs n) := by
  induction cs generalizing n with
  | nil => rfl
  | cons c cs ih =>
    rw [List.forall_mem_cons] at hdigits
    rw [Nat.ofDigitChars_cons] at hfits ⊢
    have hc : c ≠ '_' := by
      rintro rfl
      exact absurd hdigits.1 (by decide)
    have hbase := toNat_sub_lt_ten hdigits.1
    have hle := le_ofDigitChars cs (10 * n + (c.toNat - '0'.toNat))
    rw [readUint, if_neg hc, digitValue_of_isDigit hdigits.1]
    dsimp only
    rw [if_neg (by omega), if_neg (by omega)]
    exact ih hdigits.2 hfits

/-- A positive number does not begin with a zero. -/
theorem head_toDigits_ne_zero {n : ℕ} (hn : 0 < n) :
    ∃ c cs, Nat.toDigits 10 n = c :: cs ∧ c ≠ '0' := by
  induction n using Nat.strongRecOn with
  | ind n ih =>
    rw [Nat.toDigits_eq_if (by decide)]
    split_ifs with hlt
    · refine ⟨_, [], rfl, ?_⟩
      have hall : ∀ n < 10, 0 < n → Nat.digitChar n ≠ '0' := by decide
      exact hall n hlt hn
    · obtain ⟨c, cs, hdigits, hc⟩ := ih (n / 10) (by omega) (by omega)
      exact ⟨c, cs ++ [Nat.digitChar (n % 10)], by rw [hdigits, List.cons_append], hc⟩

theorem parseUint_toDigits {n : ℕ} (hn : n < 2 ^ 64) : parseUint (Nat.toDigits 10 n) = .ok n := by
  have hmem : '_' ∉ Nat.toDigits 10 n := Nat.underscore_not_in_toDigits
  rcases Nat.eq_zero_or_pos n with rfl | hpos
  · decide
  · obtain ⟨c, cs, hdigits, hc⟩ := head_toDigits_ne_zero hpos
    have hbase : basePrefix (Nat.toDigits 10 n) = (10, Nat.toDigits 10 n) := by
      rw [hdigits, basePrefix]
      all_goals simp_all
    have hread := readUint_digits (n := 0) (fun _ => GoStd.isDigit_of_mem_toDigits (n := n))
      (by rw [Nat.ofDigitChars_toDigits (by decide) (by decide)]; exact hn)
    rw [Nat.ofDigitChars_toDigits (by decide) (by decide)] at hread
    rw [parseUint, if_neg (by rw [hdigits]; simp), hbase, hread]
    simp [hmem]

theorem parseUnsigned_toDigits {n : ℕ} (hn : n < 2 ^ 63) :
    parseUnsigned (Nat.toDigits 10 n) = .ok n := by
  rw [parseUnsigned, parseUint_toDigits (by omega)]
  dsimp only
  rw [if_neg (by omega)]

theorem parseNegated_toDigits {n : ℕ} (hn : n ≤ 2 ^ 63) :
    parseNegated (Nat.toDigits 10 n) = .ok (-(n : ℤ)) := by
  rw [parseNegated, parseUint_toDigits (by omega)]
  dsimp only
  rw [if_neg (by omega)]

/-- A text without a sign. -/
theorem parseInt_toDigits (n : ℕ) :
    parseInt (String.ofList (Nat.toDigits 10 n)) = parseUnsigned (Nat.toDigits 10 n) := by
  have hsign : ∀ c cs, Nat.toDigits 10 n = c :: cs → c ≠ '-' ∧ c ≠ '+' := by
    intro c cs hdigits
    have hc : c.isDigit = true :=
      GoStd.isDigit_of_mem_toDigits (hdigits ▸ List.mem_cons_self : c ∈ Nat.toDigits 10 n)
    constructor <;> rintro rfl <;> exact absurd hc (by decide)
  rw [parseInt, String.toList_ofList]
  split
  · next cs hdigits => exact absurd rfl (hsign _ _ hdigits).1
  · next cs hdigits => exact absurd rfl (hsign _ _ hdigits).2
  · rfl

/-- **An integer is read back from its decimal text.** -/
theorem parseInt_itoa {n : ℤ} (hn : IsInt n) : parseInt (itoa n) = .ok n := by
  obtain ⟨hlow, hhigh⟩ := hn
  cases n with
  | ofNat n =>
    rw [itoa, numText, parseInt_toDigits, parseUnsigned_toDigits]
    · rfl
    · rw [Int.ofNat_eq_natCast] at hhigh
      omega
  | negSucc n =>
    have hsign : parseInt (itoa (Int.negSucc n)) = parseNegated (Nat.toDigits 10 (n + 1)) := by
      rw [itoa, numText, parseInt, String.toList_ofList]
      rfl
    rw [hsign, parseNegated_toDigits]
    · rfl
    · rw [Int.negSucc_eq] at hlow
      omega

/-! ### Flags -/

/-- A flag, and what setting it does to the variables. -/
structure Flag (σ : Type) where
  name : String
  isBool : Bool := false
  set : String → σ → Except String σ

variable {σ : Type}

def Flag.stringVar (name : String) (assign : String → σ → σ) : Flag σ where
  name := name
  set value s := .ok (assign value s)

def Flag.intVar (name : String) (assign : ℤ → σ → σ) : Flag σ where
  name := name
  set value s := (parseInt value).map fun n => assign n s

/-- `strconv.ParseBool`. -/
def parseBool (s : String) : Except String Bool :=
  if s ∈ ["1", "t", "T", "TRUE", "true", "True"] then .ok true
  else if s ∈ ["0", "f", "F", "FALSE", "false", "False"] then .ok false
  else .error "parse error"

def Flag.boolVar (name : String) (assign : Bool → σ → σ) : Flag σ where
  name := name
  isBool := true
  set value s := (parseBool value).map fun b => assign b s

/-- What an argument at the front of the line is. -/
inductive Token
  -- the first argument that is no flag
  | operand
  -- `--`
  | terminator
  | malformed
  | flag (name : String) (value : Option String)

/-- A name, which may carry a value behind an equals sign. -/
def nameToken : List Char → Token
  | [] => .malformed
  | c :: cs =>
    if c = '-' ∨ c = '=' then .malformed
    else match (c :: cs).dropWhile (· ≠ '=') with
      | [] => .flag (String.ofList (c :: cs)) none
      | _ :: value =>
        .flag (String.ofList ((c :: cs).takeWhile (· ≠ '='))) (some (String.ofList value))

def token (arg : String) : Token :=
  match arg.toList with
  | ['-', '-'] => .terminator
  | '-' :: '-' :: name => nameToken name
  | '-' :: c :: name => nameToken (c :: name)
  | _ => .operand

/-- `FlagSet.Parse`: the variables, and the arguments that are left. -/
def parse (flags : List (Flag σ)) : List String → σ → Except String (σ × List String)
  | [], s => .ok (s, [])
  | arg :: args, s =>
    match token arg with
    | .operand => .ok (s, arg :: args)
    | .terminator => .ok (s, args)
    | .malformed => .error ("bad flag syntax: " ++ arg)
    | .flag name value? =>
      match flags.find? fun flag => flag.name = name with
      | none =>
        if name = "help" ∨ name = "h" then .error "flag: help requested"
        else .error ("flag provided but not defined: -" ++ name)
      | some flag =>
        -- a boolean flag does not take the next argument
        if flag.isBool then
          match flag.set (value?.getD "true") s with
          | .error err =>
            if value?.isSome then
              .error ("invalid boolean value " ++ GoStd.quote (value?.getD "") ++ " for -" ++
                name ++ ": " ++ err)
            else .error ("invalid boolean flag " ++ name ++ ": " ++ err)
          | .ok s' => parse flags args s'
        else match value?, args with
          | some value, args => setValue name value (flag.set value s) (parse flags args)
          | none, value :: args => setValue name value (flag.set value s) (parse flags args)
          | none, [] => .error ("flag needs an argument: -" ++ name)
where
  setValue (name value : String) (result : Except String σ)
      (next : σ → Except String (σ × List String)) : Except String (σ × List String) :=
    match result with
    | .error err =>
      .error ("invalid value " ++ GoStd.quote value ++ " for flag -" ++ name ++ ": " ++ err)
    | .ok s => next s

/-! ### Lines that give each flag its value -/

/-- A name that is read as itself. -/
def PlainName (name : String) : Prop :=
  name.toList ≠ [] ∧ name.toList.head? ≠ some '-' ∧ '=' ∉ name.toList

instance (name : String) : Decidable (PlainName name) :=
  inferInstanceAs (Decidable (_ ∧ _ ∧ _))

theorem token_dash {name : String} (h : PlainName name) :
    token ("-" ++ name) = .flag name none := by
  obtain ⟨hne, hdash, hequals⟩ := h
  obtain ⟨c, cs, hname⟩ := List.exists_cons_of_ne_nil hne
  rw [hname] at hdash hequals
  have hdrop : (c :: cs).dropWhile (· ≠ '=') = [] := by
    have hall : ∀ d ∈ c :: cs, decide (d ≠ '=') = true := by
      intro d hd
      rw [decide_eq_true_eq]
      rintro rfl
      exact hequals hd
    have happend : ((c :: cs) ++ []).dropWhile (· ≠ '=') = [].dropWhile (· ≠ '=') :=
      List.dropWhile_append_of_pos hall
    simpa using happend
  have hc : ¬ (c = '-' ∨ c = '=') := by
    rintro (rfl | rfl)
    · exact hdash rfl
    · exact hequals List.mem_cons_self
  have htext : ("-" ++ name).toList = '-' :: c :: cs := by
    rw [String.toList_append, hname]
    rfl
  rw [token, htext]
  split
  · simp_all
  · simp_all
  · rename_i heq
    simp only [List.cons.injEq, true_and] at heq
    rw [← heq.1, ← heq.2, nameToken, if_neg hc, hdrop, ← hname, String.ofList_toList]
  · simp_all

/-- A boolean flag that is given without a value. -/
theorem parse_switch {flags : List (Flag σ)} {flag : Flag σ} (name : String) {args : List String}
    {s s' : σ} (hname : PlainName name)
    (hfind : (flags.find? fun flag => flag.name = name) = some flag)
    (hbool : flag.isBool = true) (hset : flag.set "true" s = .ok s') :
    parse flags (("-" ++ name) :: args) s = parse flags args s' := by
  rw [parse, token_dash hname]
  dsimp only
  rw [hfind]
  dsimp only
  rw [if_pos hbool, Option.getD_none, hset]

/-- A flag and its value. -/
theorem parse_setting {flags : List (Flag σ)} {flag : Flag σ} {name value : String}
    {args : List String} {s s' : σ} (hname : PlainName name)
    (hfind : (flags.find? fun flag => flag.name = name) = some flag)
    (hbool : flag.isBool = false) (hset : flag.set value s = .ok s') :
    parse flags (("-" ++ name) :: value :: args) s = parse flags args s' := by
  rw [parse, token_dash hname]
  dsimp only
  rw [hfind]
  dsimp only
  rw [hbool, if_neg (by decide), hset, parse.setValue.eq_def]

/-- The flags and their values, each as an argument of its own. -/
def args (settings : List (String × String)) : List String :=
  settings.flatMap fun setting => ["-" ++ setting.1, setting.2]

/-- A change of the values leaves the names alone. -/
theorem map_args {f : String → String} {settings : List (String × String)}
    (h : ∀ setting ∈ settings, f ("-" ++ setting.1) = "-" ++ setting.1) :
    (args settings).map f = args (settings.map fun setting => (setting.1, f setting.2)) := by
  induction settings with
  | nil => rfl
  | cons setting settings ih =>
    rw [List.forall_mem_cons] at h
    change f ("-" ++ setting.1) :: f setting.2 :: (args settings).map f = _
    rw [h.1, ih h.2]
    rfl

/-- A flag of the set takes the value and does `f` to the variables. -/
def Sets (flags : List (Flag σ)) (setting : String × String) (f : σ → σ) : Prop :=
  ∃ flag, (flags.find? fun flag => flag.name = setting.1) = some flag ∧ flag.isBool = false ∧
    ∀ s, flag.set setting.2 s = .ok (f s)

/-- **A line that gives each flag its value** sets the flags in that order, and the rest of the
line is read after that. -/
theorem parse_args {flags : List (Flag σ)} {assignments : List ((String × String) × (σ → σ))}
    (hplain : ∀ flag ∈ flags, PlainName flag.name)
    (h : ∀ assignment ∈ assignments, Sets flags assignment.1 assignment.2)
    (rest : List String) (s : σ) :
    parse flags (args (assignments.map Prod.fst) ++ rest) s =
      parse flags rest (assignments.foldl (fun s assignment => assignment.2 s) s) := by
  induction assignments generalizing s with
  | nil => rfl
  | cons assignment assignments ih =>
    rw [List.forall_mem_cons] at h
    obtain ⟨⟨flag, hfind, hbool, hset⟩, hrest⟩ := h
    have hname : PlainName assignment.1.1 := by
      have heq : flag.name = assignment.1.1 := by simpa using List.find?_some hfind
      exact heq ▸ hplain flag (List.mem_of_find?_eq_some hfind)
    exact (parse_setting hname hfind hbool (hset s)).trans (ih hrest _)

end CommandLine
