/-
  TaskQuery — quoted texts are told apart.

  * `mem_toDigits_hex` and `toDigits_hex_inj`: the hexadecimal digits of a number, which
    say what it is;
  * `IsForm c text`: the ways to write a character between quotes; `isForm_escapeChar`:
    every character is written in one of them;
  * `IsForm.append_inj`: written characters are told apart, whatever stands behind them;
    `quote_append_inj`: so are quoted texts;
  * `isFormless_of_mem_quote`: every character of a quoted text has a form of its own; so
    `not_mem_quote`: it has neither line breaks nor escape characters.
-/
import Mathlib.Data.Bool.AllAny
import TaskQuery.Proofs.Lists
import TaskQuery.Text.Quoted

namespace TaskQuery.Text

/-! ## Hexadecimal digits -/

theorem digitChar_hex_inj : ∀ m < 16, ∀ n < 16, Nat.digitChar m = Nat.digitChar n → m = n := by
  decide

theorem mem_toDigits_hex {c : Char} {n : Nat} (h : c ∈ Nat.toDigits 16 n) :
    ∃ d < 16, c = Nat.digitChar d := by
  induction n using Nat.strongRecOn with
  | _ n ih =>
    rw [Nat.toDigits_eq_if (by decide)] at h
    split at h
    · rename_i hsmall
      exact ⟨n, hsmall, List.mem_singleton.1 h⟩
    · rename_i hlarge
      rcases List.mem_append.1 h with h | h
      · exact ih (n / 16) (by omega) h
      · exact ⟨n % 16, Nat.mod_lt n (by decide), List.mem_singleton.1 h⟩

/-- A number is told by its hexadecimal digits. -/
theorem toDigits_hex_inj {m n : Nat} (h : Nat.toDigits 16 m = Nat.toDigits 16 n) : m = n := by
  induction m using Nat.strongRecOn generalizing n with
  | _ m ih =>
    -- the front digits are those of the quotient, if there are any
    have hsplit (k : Nat) : ∃ front, Nat.toDigits 16 k = front ++ [Nat.digitChar (k % 16)] ∧
        (front = [] ↔ k < 16) ∧ (16 ≤ k → front = Nat.toDigits 16 (k / 16)) := by
      rcases Nat.lt_or_ge k 16 with hk | hk
      · exact ⟨[], by rw [Nat.toDigits_of_lt_base hk, Nat.mod_eq_of_lt hk]; rfl, by simpa using hk,
          by omega⟩
      · exact ⟨_, Nat.toDigits_of_base_le (by decide) hk,
          iff_of_false Nat.toDigits_ne_nil (by omega), fun _ => rfl⟩
    obtain ⟨front, hm, hm_nil, hm_front⟩ := hsplit m
    obtain ⟨front', hn, hn_nil, hn_front⟩ := hsplit n
    rw [hm, hn] at h
    obtain ⟨rfl, hlast⟩ := List.append_inj' h rfl
    have hrest : m % 16 = n % 16 :=
      digitChar_hex_inj _ (Nat.mod_lt m (by decide)) _ (Nat.mod_lt n (by decide))
        (List.singleton_inj.1 hlast)
    rcases Nat.lt_or_ge m 16 with hsmall | hlarge
    · have := hn_nil.1 (hm_nil.2 hsmall)
      omega
    · have hlarge' : 16 ≤ n := by
        by_contra hsmall
        have := hm_nil.1 (hn_nil.2 (by omega))
        omega
      have hquotient : m / 16 = n / 16 :=
        ih (m / 16) (by omega) ((hm_front hlarge).symm.trans (hn_front hlarge'))
      omega

/-! ## Characters -/

/-- A set of code points whose ranges leave out the printable ones of ASCII. -/
theorem contains_ascii {ranges : CodeRanges} {c : Char}
    (hranges : ∀ range ∈ ranges, range.2 < 0x20 ∨ 0x7F ≤ range.1)
    (hc : 0x20 ≤ c.toNat ∧ c.toNat < 0x7F) : ranges.contains c = false := by
  refine List.any_eq_false.2 fun range hrange => ?_
  have := hranges range hrange
  simp only [Bool.and_eq_true, decide_eq_true_eq]
  omega

/-- The printable characters of ASCII have a form of their own. -/
theorem isFormless_ascii {c : Char} (hc : 0x20 ≤ c.toNat ∧ c.toNat < 0x7F) :
    isFormless c = false := by
  have hextend : ∀ range ∈ graphemeExtendRanges, range.2 < 0x20 ∨ 0x7F ≤ range.1 := by
    decide +kernel
  have hhidden : ∀ range ∈ hiddenRanges, range.2 < 0x20 ∨ 0x7F ≤ range.1 := by decide +kernel
  rw [isFormless, contains_ascii hextend hc, contains_ascii hhidden hc]
  rfl

theorem isFormless_of_ascii {text : List Char}
    (h : text.all fun c => 0x20 ≤ c.toNat ∧ c.toNat < 0x7F) : ∀ c ∈ text, isFormless c = false :=
  fun c hc => isFormless_ascii (List.all_iff_forall_prop.1 h c hc)

/-- The character that an escape of one letter stands for. -/
def escapedBy? : Char → Option Char
  | '0' => some '\x00'
  | 't' => some '\t'
  | 'r' => some '\r'
  | 'n' => some '\n'
  | '\\' => some '\\'
  | '"' => some '"'
  | _ => none

/-- The ways to write a character between double quotes. -/
inductive IsForm : Char → List Char → Prop
  | letter {c letter} : escapedBy? letter = some c → IsForm c ['\\', letter]
  | code {c} : isFormless c → IsForm c (codeEscape c)
  | self {c} : c ≠ '\\' → c ≠ '"' → isFormless c = false → IsForm c [c]

theorem isForm_escapeChar (c : Char) : IsForm c (escapeChar c) := by
  unfold escapeChar
  split_ifs with hnul htab hreturn hline hself hformless
  · exact hnul ▸ .letter rfl
  · exact htab ▸ .letter rfl
  · exact hreturn ▸ .letter rfl
  · exact hline ▸ .letter rfl
  · exact .letter (by rcases hself with rfl | rfl <;> rfl)
  · exact .code hformless
  · obtain ⟨hslash, hquote⟩ := not_or.1 hself
    exact .self hslash hquote (Bool.eq_false_iff.2 hformless)

variable {c d : Char} {a b form form' : List Char}

/-- **Written characters are told apart**, whatever stands behind them. -/
theorem IsForm.append_inj (hc : IsForm c form) (hd : IsForm d form') (h : form ++ a = form' ++ b) :
    c = d ∧ a = b := by
  cases hc with
  | letter hletter =>
    cases hd with
    | letter hletter' =>
      obtain ⟨rfl, rfl⟩ : _ ∧ a = b := by simpa using h
      exact ⟨Option.some.inj (hletter.symm.trans hletter'), rfl⟩
    | code =>
      obtain ⟨rfl, -⟩ : _ = 'u' ∧ _ := by simpa [codeEscape] using h
      cases hletter
    | self hslash => exact absurd (List.cons.inj h).1.symm hslash
  | code =>
    cases hd with
    | letter hletter' =>
      obtain ⟨rfl, -⟩ : 'u' = _ ∧ _ := by simpa [codeEscape] using h
      cases hletter'
    | code =>
      have hdigits (k : Nat) : ∀ c ∈ Nat.toDigits 16 k, decide (c ≠ '\x7d') = true := by
        intro c hc
        obtain ⟨digit, hdigit, rfl⟩ := mem_toDigits_hex hc
        have hall : ∀ digit < 16, decide (Nat.digitChar digit ≠ '\x7d') = true := by decide
        exact hall digit hdigit
      have hclose (rest : List Char) :
          ∀ c ∈ ('\x7d' :: rest).head?, decide (c ≠ '\x7d') = false := by simp
      simp only [codeEscape, List.append_assoc, List.cons_append, List.nil_append,
        List.cons.injEq, true_and] at h
      obtain ⟨hcode, hrest⟩ := append_inj_of_stop (hdigits _) (hdigits _) (hclose a) (hclose b) h
      exact ⟨Char.toNat_inj.1 (toDigits_hex_inj hcode), List.tail_eq_of_cons_eq hrest⟩
    | self hslash => exact absurd (List.cons.inj h).1.symm hslash
  | self hslash =>
    cases hd with
    | letter | code => exact absurd (List.cons.inj h).1 hslash
    | self => exact List.cons.inj h

/-- No character is written with a quote in front. -/
theorem IsForm.exists_cons (h : IsForm c form) :
    ∃ first more, form = first :: more ∧ first ≠ '"' := by
  cases h with
  | letter | code => exact ⟨_, _, rfl, by decide⟩
  | self _ hquote => exact ⟨_, _, rfl, hquote⟩

/-- A written character consists of characters that have a form of their own. -/
theorem IsForm.isFormless_eq (h : IsForm c form) : ∀ d ∈ form, isFormless d = false := by
  cases h with
  | letter hletter =>
    refine List.forall_mem_cons.2 ⟨isFormless_ascii (by decide), List.forall_mem_singleton.2 ?_⟩
    refine isFormless_ascii ?_
    unfold escapedBy? at hletter
    split at hletter
    · decide
    · decide
    · decide
    · decide
    · decide
    · decide
    · cases hletter
  | code =>
    have hmarks : ∀ d ∈ ['\\', 'u', '\x7b', '\x7d'], isFormless d = false :=
      isFormless_of_ascii (by decide)
    have hdigits : ∀ digit < 16, 0x20 ≤ (Nat.digitChar digit).toNat ∧
        (Nat.digitChar digit).toNat < 0x7F := by decide
    intro d hd
    simp only [codeEscape, List.mem_append, or_assoc] at hd
    rcases hd with hd | hd | hd
    · exact hmarks d (List.mem_append_left ['\x7d'] hd)
    · obtain ⟨digit, hlt, rfl⟩ := mem_toDigits_hex hd
      exact isFormless_ascii (hdigits digit hlt)
    · exact hmarks d (List.mem_append_right ['\\', 'u', '\x7b'] hd)
  | self _ _ hform => exact List.forall_mem_singleton.2 hform

/-! ## Texts -/

/-- Escaped texts are told apart by the quote behind them. -/
theorem escape_append_inj (s t : List Char) (h : escape s ++ '"' :: a = escape t ++ '"' :: b) :
    s = t ∧ a = b := by
  induction s generalizing t with
  | nil =>
    cases t with
    | nil => exact ⟨rfl, List.tail_eq_of_cons_eq h⟩
    | cons d t =>
      obtain ⟨first, more, hform, hquote⟩ := (isForm_escapeChar d).exists_cons
      rw [escape, escape, List.flatMap_cons, hform] at h
      exact absurd (List.cons.inj h).1.symm hquote
  | cons c s ih =>
    cases t with
    | nil =>
      obtain ⟨first, more, hform, hquote⟩ := (isForm_escapeChar c).exists_cons
      rw [escape, escape, List.flatMap_cons, hform] at h
      exact absurd (List.cons.inj h).1 hquote
    | cons d t =>
      rw [escape, escape, List.flatMap_cons, List.flatMap_cons, List.append_assoc,
        List.append_assoc] at h
      obtain ⟨rfl, hrest⟩ := (isForm_escapeChar c).append_inj (isForm_escapeChar d) h
      obtain ⟨rfl, hbehind⟩ := ih t hrest
      exact ⟨rfl, hbehind⟩

/-- **Quoted texts are told apart**, whatever they contain and whatever stands behind
    them. -/
theorem quote_append_inj {s t : String} (h : (quote s).toList ++ a = (quote t).toList ++ b) :
    s = t ∧ a = b := by
  simp only [quote, String.toList_ofList, List.cons_append, List.append_assoc, List.nil_append,
    List.cons.injEq, true_and] at h
  obtain ⟨htext, hbehind⟩ := escape_append_inj _ _ h
  exact ⟨String.toList_inj.1 htext, hbehind⟩

/-- Every character of a quoted text has a form of its own. -/
theorem isFormless_of_mem_quote {s : String} : ∀ c ∈ (quote s).toList, isFormless c = false := by
  have hescape : ∀ c ∈ escape s.toList, isFormless c = false := by
    intro c hc
    obtain ⟨d, -, hd⟩ := List.mem_flatMap.1 hc
    exact (isForm_escapeChar d).isFormless_eq c hd
  have hquote : isFormless '"' = false := isFormless_ascii (by decide)
  rw [quote, String.toList_ofList]
  exact List.forall_mem_append.2
    ⟨List.forall_mem_cons.2 ⟨hquote, hescape⟩, List.forall_mem_singleton.2 hquote⟩

/-- A quoted text has neither line breaks nor escape characters. -/
theorem not_mem_quote (s : String) : '\n' ∉ (quote s).toList ∧ '\x1b' ∉ (quote s).toList := by
  constructor
  · intro h
    exact absurd (isFormless_of_mem_quote _ h) (by decide +kernel)
  · intro h
    exact absurd (isFormless_of_mem_quote _ h) (by decide +kernel)

end TaskQuery.Text
