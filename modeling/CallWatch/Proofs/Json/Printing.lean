import CallWatch.Proofs.Json.Reading

/-!
# The text of a value is one line

The text of a plain value holds no control character (`Json.noControl_chars`): those of its strings
and names are escaped, and there is no blank between its parts.  In particular it has no line break.
-/

namespace CallWatch.Json

/-- Whether a text holds no control character. -/
def NoControl (cs : List Char) : Prop :=
  ∀ c ∈ cs, 0x20 ≤ c.toNat

instance (cs : List Char) : Decidable (NoControl cs) :=
  List.decidableBAll (fun c : Char => 0x20 ≤ c.toNat) cs

namespace NoControl

variable {c : Char} {cs cs' : List Char}

theorem newline_not_mem (h : NoControl cs) : '\n' ∉ cs := by
  intro hmem
  exact absurd (h _ hmem) (by decide)

theorem nil : NoControl [] :=
  nofun

theorem cons (hc : 0x20 ≤ c.toNat) (h : NoControl cs) : NoControl (c :: cs) :=
  List.forall_mem_cons.2 ⟨hc, h⟩

theorem append (h : NoControl cs) (h' : NoControl cs') : NoControl (cs ++ cs') :=
  List.forall_mem_append.2 ⟨h, h'⟩

end NoControl

/-! ### Strings and integers -/

theorem le_toNat_digitChar {d : Nat} (h : d < 16) : 0x20 ≤ d.digitChar.toNat := by
  have hall : ∀ d : Fin 16, 0x20 ≤ (Nat.digitChar d).toNat := by decide
  exact hall ⟨d, h⟩

/-- Whatever the character, its escape holds no control character. -/
theorem noControl_escapeChar (c : Char) : NoControl (escapeChar c) := by
  unfold escapeChar
  split_ifs with _ _ _ _ _ _ _ hcontrol
  -- what has a letter
  iterate 7 · decide
  · -- a control character without a letter
    have hlow : c.toNat / 16 < 16 := by omega
    have hhigh : c.toNat % 16 < 16 := by omega
    have hfront : NoControl ['\\', 'u', '0', '0'] := by decide
    exact hfront.append
      (.cons (le_toNat_digitChar hlow) (.cons (le_toNat_digitChar hhigh) .nil))
  · -- any other character stands for itself
    exact .cons (Nat.not_lt.1 hcontrol) .nil

theorem noControl_stringChars (s : String) : NoControl (stringChars s) := by
  refine .append (.cons (by decide) ?_) (by decide)
  intro c hc
  obtain ⟨c', -, hc⟩ := List.mem_flatMap.1 hc
  exact noControl_escapeChar c' c hc

theorem noControl_toDigits (n : Nat) : NoControl (Nat.toDigits 10 n) := by
  intro c hc
  have hdigit : c.isDigit = true := Nat.isDigit_of_mem_toDigits (by decide) (by decide) hc
  rw [Char.isDigit, Bool.and_eq_true, decide_eq_true_eq, ge_iff_le,
    UInt32.le_iff_toNat_le] at hdigit
  exact Nat.le_trans (by decide) hdigit.1

theorem noControl_intChars (n : Int) : NoControl (intChars n) := by
  cases n with
  | ofNat n => exact noControl_toDigits n
  | negSucc n => exact .cons (by decide) (noControl_toDigits (n + 1))

/-! ### Values -/

mutual

/-- **The text of a plain value holds no control character.** -/
theorem noControl_chars {v : Json} (h : v.IsPlain) : NoControl v.chars := by
  match v with
  | null | bool true | bool false => decide
  | number n => exact noControl_intChars n
  | string s => exact noControl_stringChars s
  | array items =>
    rw [chars]
    exact .append (.cons (by decide) (noControl_charsItems h)) (by decide)
  | object members =>
    rw [chars]
    exact .append (.cons (by decide) (noControl_charsMembers h)) (by decide)

theorem noControl_charsItems {items : List Json} (h : ArePlain items) :
    NoControl (charsItems items) := by
  match items with
  | [] => exact .nil
  | [v] => exact noControl_chars h.1
  | v :: w :: rest =>
    rw [charsItems]
    · exact .append (noControl_chars h.1) (.cons (by decide) (noControl_charsItems h.2))
    · exact nofun

theorem noControl_charsMembers {members : List (String × Json)} (h : ArePlainMembers members) :
    NoControl (charsMembers members) := by
  match members with
  | [] => exact .nil
  | [(name, v)] =>
    exact .append (noControl_stringChars name) (.cons (by decide) (noControl_chars h.1))
  | (name, v) :: m :: rest =>
    rw [charsMembers]
    · exact .append (.append (noControl_stringChars name) (.cons (by decide) (noControl_chars h.1)))
        (.cons (by decide) (noControl_charsMembers h.2))
    · exact nofun

end

end CallWatch.Json
