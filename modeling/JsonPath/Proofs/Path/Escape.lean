import JsonPath.Location
import JsonPath.Token.Scan

namespace JsonPath

namespace Token

namespace Scan

section

variable {quote : Char} {offset : Nat} {text : List Char} {l : Lexeme (List Char)}

theorem content_simpleEscape {c meaning : Char} (escape : simpleEscape? quote c = some meaning)
    (short : c ≠ 'u') (after : content quote (offset + 2) text = .ok l) :
    content quote offset ('\\' :: c :: text) =
      .ok ⟨meaning :: l.value, '\\' :: c :: l.text, l.rest⟩ := by
  rw [content.eq_5 _ _ _ _ short]
  simp [escape, after, bind, Except.bind, pure, Except.pure]

theorem content_unit {a b c d : Char} {unit : Nat} (value : hexValue? [a, b, c, d] = some unit)
    (low : isLowSurrogate unit = false) (high : isHighSurrogate unit = false)
    (after : content quote (offset + 6) text = .ok l) :
    content quote offset ('\\' :: 'u' :: a :: b :: c :: d :: text) =
      .ok ⟨Char.ofNat unit :: l.value, '\\' :: 'u' :: a :: b :: c :: d :: l.text, l.rest⟩ := by
  rw [content.eq_2]
  simp [value, low, high, after, bind, Except.bind, pure, Except.pure]

theorem content_other {c : Char} (notEscape : c ≠ '\\') :
    content quote offset (c :: text) =
      if c = quote then .ok ⟨[], [c], text⟩
      else if c.toNat ≤ 0x1F then fail .controlCharacter offset
      else do
        let l ← content quote (offset + 1) text
        return ⟨c :: l.value, c :: l.text, l.rest⟩ :=
  content.eq_6 _ _ _ _ (fun _ same _ => notEscape same) (fun same _ => notEscape same)
    fun _ _ same _ => notEscape same

theorem content_plain {c : Char} (notEscape : c ≠ '\\') (notQuote : c ≠ quote)
    (printable : ¬ c.toNat ≤ 0x1F) (after : content quote (offset + 1) text = .ok l) :
    content quote offset (c :: text) = .ok ⟨c :: l.value, c :: l.text, l.rest⟩ := by
  rw [content_other notEscape, if_neg notQuote, if_neg printable, after]
  rfl

theorem content_close (notEscape : quote ≠ '\\') :
    content quote offset (quote :: text) = .ok ⟨[], [quote], text⟩ := by
  rw [content_other notEscape, if_pos rfl]

end

end Scan

end Token

open Token.Scan

theorem hexValue?_control {n : Nat} (small : n ≤ 0x1F) :
    hexValue? ['0', '0', Nat.digitChar (n / 16), Nat.digitChar (n % 16)] = some n := by
  have all : ∀ n < 32,
      hexValue? ['0', '0', Nat.digitChar (n / 16), Nat.digitChar (n % 16)] = some n := by decide
  exact all n (by omega)

theorem escapeChar_cases (c : Char) :
    (∃ d, escapeChar c = ['\\', d] ∧ simpleEscape? '\'' d = some c ∧ d ≠ 'u') ∨
      (c.toNat ≤ 0x1F ∧ escapeChar c =
        ['\\', 'u', '0', '0', Nat.digitChar (c.toNat / 16), Nat.digitChar (c.toNat % 16)]) ∨
      (escapeChar c = [c] ∧ c ≠ '\\' ∧ c ≠ '\'' ∧ ¬ c.toNat ≤ 0x1F) := by
  unfold escapeChar
  iterate 7
    split
    · next same =>
      subst same
      exact .inl ⟨_, rfl, rfl, by decide⟩
  next notEscape notQuote _ _ _ _ _ =>
  split
  · next control => exact .inr (.inl ⟨control, rfl⟩)
  · next printable => exact .inr (.inr ⟨rfl, notEscape, notQuote, printable⟩)

theorem content_escapeChar (c : Char) {offset : Nat} {text : List Char} {l : Lexeme (List Char)}
    (after : content '\'' (offset + (escapeChar c).length) text = .ok l) :
    content '\'' offset (escapeChar c ++ text) =
      .ok ⟨c :: l.value, escapeChar c ++ l.text, l.rest⟩ := by
  rcases escapeChar_cases c with ⟨d, form, meaning, short⟩ | ⟨control, form⟩ |
    ⟨form, notEscape, notQuote, printable⟩
  · rw [form] at after ⊢
    exact content_simpleEscape meaning short after
  · rw [form] at after ⊢
    have low : isLowSurrogate c.toNat = false := by simp [isLowSurrogate]; omega
    have high : isHighSurrogate c.toNat = false := by simp [isHighSurrogate]; omega
    have read := content_unit (hexValue?_control control) low high after
    rwa [Char.ofNat_toNat] at read
  · rw [form] at after ⊢
    exact content_plain notEscape notQuote printable after

theorem content_escapeName (name : List Char) (offset : Nat) (rest : List Char) :
    content '\'' offset (name.flatMap escapeChar ++ '\'' :: rest) =
      .ok ⟨name, name.flatMap escapeChar ++ ['\''], rest⟩ := by
  induction name generalizing offset with
  | nil => exact content_close (by decide)
  | cons c name ih =>
    rw [List.flatMap_cons, List.append_assoc, content_escapeChar c (ih _)]
    simp

end JsonPath
