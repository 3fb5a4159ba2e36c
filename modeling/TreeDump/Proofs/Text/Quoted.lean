import TreeDump.Proofs.Text.ToldApart
import TreeDump.Text.Quoted

namespace TreeDump.Text

section Hexadecimal

theorem digitChar_inj_of_lt {m n : Nat} (hm : m < 16) (hn : n < 16)
    (heq : Nat.digitChar m = Nat.digitChar n) : m = n := by
  have hall : ∀ m < 16, ∀ n < 16, Nat.digitChar m = Nat.digitChar n → m = n := by decide
  exact hall m hm n hn heq

/-- A number has its last digit and the digits of what is left without it, so two numbers of the same
    digits are the same. -/
theorem toDigits_sixteen_inj {m n : Nat} (heq : Nat.toDigits 16 m = Nat.toDigits 16 n) : m = n := by
  induction m using Nat.base_induction 16 (by omega) generalizing n with
  | single m hm =>
    rw [Nat.toDigits_of_lt_base hm] at heq
    have hn : n < 16 := by
      have hlength := (Nat.length_toDigits_le_iff (b := 16) (n := n) (k := 1) (by omega) (by omega)).mp
      rw [← heq] at hlength
      exact hlength (Nat.le_refl 1)
    rw [Nat.toDigits_of_lt_base hn] at heq
    exact digitChar_inj_of_lt hm hn (List.singleton_inj.mp heq)
  | digit m k hk hm ih =>
    rw [← Nat.toDigits_append_toDigits (by omega) hm hk, Nat.toDigits_of_lt_base hk] at heq
    have hn : 16 ≤ n := by
      by_contra hlt
      rw [Nat.toDigits_of_lt_base (Nat.lt_of_not_le hlt)] at heq
      have hlength := congrArg List.length heq
      have hpos := Nat.length_toDigits_pos (b := 16) (n := m)
      simp only [List.length_append, List.length_singleton] at hlength
      omega
    rw [Nat.toDigits_of_base_le (by omega) hn] at heq
    obtain ⟨hfront, hlast⟩ := List.append_inj' heq rfl
    have hdigit : k = n % 16 :=
      digitChar_inj_of_lt hk (Nat.mod_lt n (by omega)) (List.singleton_inj.mp hlast)
    have hrest : m = n / 16 := ih hfront
    omega

theorem brace_not_mem_toDigits (n : Nat) : '\x7d' ∉ Nat.toDigits 16 n := by
  induction n using Nat.base_induction 16 (by omega) with
  | single m hm => simp [Nat.toDigits_of_lt_base hm]
  | digit m k hk hm ih =>
    rw [← Nat.toDigits_append_toDigits (by omega) hm hk, Nat.toDigits_of_lt_base hk]
    simp [ih]

end Hexadecimal

/-- The characters with an escape of their own, each with the letter that stands for it. -/
def escapeLetters : List (Char × Char) :=
  [('"', '"'), ('\\', '\\'), ('\n', 'n'), ('\r', 'r'), ('\t', 't'), ('\x00', '0')]

/-- The three ways in which a character stands between quotes. -/
inductive Escaped : Char → List Char → Prop where
  | plain {c : Char} (hquote : c ≠ '"') (hbackslash : c ≠ '\\') : Escaped c [c]
  | lettered {c letter : Char} (hletter : (c, letter) ∈ escapeLetters) : Escaped c ['\\', letter]
  | numbered (c : Char) : Escaped c (hexEscape c)

theorem escaped_escape (c : Char) : Escaped c (escape c) := by
  unfold escape
  split
  · exact .lettered (by decide)
  · exact .lettered (by decide)
  · exact .lettered (by decide)
  · exact .lettered (by decide)
  · exact .lettered (by decide)
  · exact .lettered (by decide)
  · next hquote hbackslash _ _ _ _ =>
    split
    · exact .numbered c
    · exact .plain hquote hbackslash

/-- The escape letters are different, and none is the `u` of a hexadecimal escape. -/
theorem escapeLetters_inj :
    ∀ first ∈ escapeLetters, ∀ second ∈ escapeLetters, first.2 = second.2 → first.1 = second.1 := by
  decide

theorem escapeLetters_ne : ∀ named ∈ escapeLetters, named.2 ≠ 'u' := by
  decide

namespace Escaped

variable {c d : Char} {cs ds rest rest' : List Char}

theorem head_ne (hc : Escaped c cs) (rest : List Char) : (cs ++ rest).head? ≠ some '"' := by
  cases hc with
  | plain hquote _ => simpa using hquote
  | lettered _ => simp
  | numbered => simp [hexEscape]

/-- A character can be told from its escaped form and any text behind it. -/
theorem append_inj (hc : Escaped c cs) (hd : Escaped d ds) (heq : cs ++ rest = ds ++ rest') :
    c = d ∧ rest = rest' := by
  cases hc with
  | plain _ hbackslash =>
    cases hd with
    | plain _ _ => simpa using heq
    | lettered _ => exact absurd (List.cons.inj heq).1 hbackslash
    | numbered => exact absurd (List.cons.inj heq).1 hbackslash
  | lettered hletter =>
    cases hd with
    | plain _ hbackslash => exact absurd (List.cons.inj heq).1.symm hbackslash
    | lettered hletter' =>
      simp only [List.cons_append, List.nil_append, List.cons.injEq, true_and] at heq
      exact ⟨escapeLetters_inj _ hletter _ hletter' heq.1, heq.2⟩
    | numbered =>
      simp only [hexEscape, List.cons_append, List.nil_append, List.cons.injEq, true_and] at heq
      exact absurd heq.1 (escapeLetters_ne _ hletter)
  | numbered =>
    cases hd with
    | plain _ hbackslash => exact absurd (List.cons.inj heq).1.symm hbackslash
    | lettered hletter =>
      simp only [hexEscape, List.cons_append, List.nil_append, List.cons.injEq, true_and] at heq
      exact absurd heq.1.symm (escapeLetters_ne _ hletter)
    | numbered =>
      simp only [hexEscape, List.cons_append, List.append_assoc, List.nil_append, List.cons.injEq,
        true_and] at heq
      obtain ⟨hdigits, hrest⟩ :=
        (append_mark_inj (brace_not_mem_toDigits _) (brace_not_mem_toDigits _)).mp heq
      exact ⟨Char.toNat_inj.mp (toDigits_sixteen_inj hdigits), hrest⟩

end Escaped

/-- Escaped texts end where their quote stands, since no escaped character begins with one. -/
theorem escaped_append_quote_inj {cs ds rest rest' : List Char} :
    cs.flatMap escape ++ '"' :: rest = ds.flatMap escape ++ '"' :: rest' ↔ cs = ds ∧ rest = rest' := by
  induction cs generalizing ds with
  | nil =>
    cases ds with
    | nil => simp
    | cons d ds =>
      have hhead := (escaped_escape d).head_ne (ds.flatMap escape ++ '"' :: rest')
      rw [List.flatMap_cons, List.append_assoc]
      refine ⟨fun heq => ?_, fun hnil => nomatch hnil.1⟩
      rw [← heq] at hhead
      exact absurd rfl hhead
  | cons c cs ih =>
    cases ds with
    | nil =>
      have hhead := (escaped_escape c).head_ne (cs.flatMap escape ++ '"' :: rest)
      rw [List.flatMap_cons, List.append_assoc]
      refine ⟨fun heq => ?_, fun hnil => nomatch hnil.1⟩
      rw [heq] at hhead
      exact absurd rfl hhead
    | cons d ds =>
      rw [List.flatMap_cons, List.flatMap_cons, List.append_assoc, List.append_assoc, List.cons.injEq,
        and_assoc]
      constructor
      · intro heq
        obtain ⟨hchar, hrest⟩ := (escaped_escape c).append_inj (escaped_escape d) heq
        exact ⟨hchar, ih.mp hrest⟩
      · rintro ⟨rfl, hrest⟩
        rw [List.append_right_inj]
        exact ih.mpr hrest

theorem toldApart_quoted (s t : String) : ToldApart (quoted s) (quoted t) (s = t) := by
  intro rest rest'
  have hchars (u v : String) : (quoted u ++ v).toList = '"' :: (u.toList.flatMap escape ++ '"' :: v.toList) := by
    simp [quoted]
  rw [← String.toList_inj, hchars, hchars, List.cons.injEq, eq_self, true_and, escaped_append_quote_inj,
    String.toList_inj, String.toList_inj]

/-- A name that imitates the syntax around it does not end early. -/
example : quoted "a\", b" ++ "\"" ≠ quoted "a" ++ ", b\"\"" :=
  fun heq => absurd ((toldApart_quoted _ _ _ _).mp heq).1 (by decide)

end TreeDump.Text
