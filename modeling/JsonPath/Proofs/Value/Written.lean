import JsonPath.Proofs.Path.Escape
import JsonPath.Proofs.Value.Completeness
import JsonPath.Proofs.Value.Document
import JsonPath.Value.Writer

namespace JsonPath

namespace Value

/-- Neither here nor inside is a double, an integer that is too long to be read, or a repeated name. -/
inductive Lossless : Value → Prop
  | null : Lossless .null
  | bool (b : Bool) : Lossless (.bool b)
  | int {n : Int} (short : (Nat.toDigits 10 n.natAbs).length ≤ maxIntegerDigits) : Lossless (.int n)
  | string (s : String) : Lossless (.string s)
  | array {vs : List Value} (items : ∀ v ∈ vs, Lossless v) : Lossless (.array vs)
  | object {ms : List (String × Value)} (distinct : (ms.map Prod.fst).Nodup)
      (members : ∀ p ∈ ms, Lossless p.2) : Lossless (.object ms)

theorem putMember_of_not_mem {name : String} {v : Value} {ms : List (String × Value)}
    (new : name ∉ ms.map Prod.fst) : putMember name v ms = ms ++ [(name, v)] := by
  induction ms with
  | nil => rfl
  | cons p ms ih =>
    obtain ⟨n, w⟩ := p
    rw [List.map_cons, List.mem_cons, not_or] at new
    rw [putMember, if_neg (Ne.symm new.1), ih new.2, List.cons_append]

theorem foldl_putMember {before ms : List (String × Value)}
    (distinct : ((before ++ ms).map Prod.fst).Nodup) :
    ms.foldl (fun acc (name, v) => putMember name v acc) before = before ++ ms := by
  induction ms generalizing before with
  | nil => exact (List.append_nil before).symm
  | cons p ms ih =>
    have new : p.1 ∉ before.map Prod.fst := by
      rw [List.map_append, List.nodup_append] at distinct
      exact fun old => distinct.2.2 p.1 old p.1 List.mem_cons_self rfl
    rw [List.append_cons] at distinct ⊢
    rw [← ih distinct, ← putMember_of_not_mem new, List.foldl_cons]

theorem putAll_of_nodup {ms : List (String × Value)} (distinct : (ms.map Prod.fst).Nodup) :
    putAll ms = ms :=
  foldl_putMember distinct

namespace Writer

theorem escapeChar_cases (c : Char) :
    (∃ d, escapeChar c = ['\\', d] ∧ Escape d c) ∨
      (c.toNat ≤ 0x1F ∧ escapeChar c =
        ['\\', 'u', '0', '0', Nat.digitChar (c.toNat / 16), Nat.digitChar (c.toNat % 16)]) ∨
      (escapeChar c = [c] ∧ c ≠ '"' ∧ c ≠ '\\' ∧ 0x1F < c.toNat) := by
  unfold escapeChar
  iterate 7
    split
    · next same =>
      subst same
      exact .inl ⟨_, rfl, by constructor⟩
  next notQuote notBackslash _ _ _ _ _ =>
  split
  · next control => exact .inr (.inl ⟨by omega, rfl⟩)
  · next printable => exact .inr (.inr ⟨rfl, notQuote, notBackslash, by omega⟩)

theorem unitChar_toNat (c : Char) : Reader.unitChar c.toNat = c := by
  have valid : Nat.isValidChar c.toNat := c.valid
  rw [Reader.unitChar, if_pos valid, Char.ofNat_toNat]

theorem content_escapeChar (c : Char) {text cs : List Char} (more : Content text cs) :
    Content (escapeChar c ++ text) (c :: cs) := by
  rcases escapeChar_cases c with ⟨d, form, meaning⟩ | ⟨control, form⟩ |
    ⟨form, notQuote, notBackslash, printable⟩
  · rw [form]
    exact .escape meaning more
  · rw [form]
    have low : ¬ isHighSurrogate c.toNat := by simp [isHighSurrogate]; omega
    have unit := Content.unit (hexValue?_control control) (fun high => absurd high low) more
    rwa [unitChar_toNat] at unit
  · rw [form]
    exact .plain notQuote notBackslash printable more

theorem content_escaped (cs : List Char) : Content (cs.flatMap escapeChar) cs := by
  induction cs with
  | nil => exact .empty
  | cons c cs ih => exact content_escapeChar c ih

theorem toList_quote (s : String) :
    (quote s).toList = '"' :: (s.toList.flatMap escapeChar ++ ['"']) := by
  simp [quote]

theorem writes_string (s : String) : Writes (.value (.string s)) (quote s).toList := by
  have text := Writes.string (content_escaped s.toList)
  rwa [String.ofList_toList, ← toList_quote] at text

theorem writes_int {n : Int} (short : (Nat.toDigits 10 n.natAbs).length ≤ maxIntegerDigits) :
    Writes (.value (.int n)) (toString n).toList := by
  have read : Numeral.read? ((toString n).toList ++ []) = _ :=
    Numeral.read?_toString n fun c front => nomatch front
  have text := Writes.integer (Numeral.read?_sound read).1 rfl short
  rwa [Numeral.toInt_ofInt] at text

section

variable (layout : Layout) (depth : Nat)

theorem blanks_newline (indent : Nat) : Blanks (Layout.newline indent depth).toList := by
  intro c member
  simp only [Layout.newline, String.toList_append, String.toList_ofList, List.mem_append,
    List.mem_replicate] at member
  rcases member with line | ⟨-, rfl⟩
  · obtain rfl : c = '\n' := by simpa using line
    exact .lineFeed
  · exact .space

theorem blanks_opening : Blanks (layout.opening depth).toList := by
  cases layout with
  | line => exact fun c member => nomatch member
  | block indent => exact blanks_newline (depth + 1) indent

theorem blanks_closing : Blanks (layout.closing depth).toList := by
  cases layout with
  | line => exact fun c member => nomatch member
  | block indent => exact blanks_newline depth indent

theorem toList_separator :
    ∃ before, Blanks before ∧ (layout.separator depth).toList = ',' :: before := by
  cases layout with
  | line => exact ⟨[' '], List.forall_mem_singleton.mpr .space, String.toList_ofList⟩
  | block indent =>
    refine ⟨_, blanks_newline (depth + 1) indent, ?_⟩
    simp [Layout.separator]

end

section

variable {layout : Layout} {depth : Nat} {after : List Char} (behind : Blanks after)

include behind

theorem writes_items {v : Value} {vs : List Value}
    (each : ∀ w ∈ v :: vs, Writes (.value w) (value layout (depth + 1) w).toList) :
    Writes (.items (v :: vs))
      ((value layout (depth + 1) v).toList ++ (items layout depth vs).toList ++ after) := by
  induction vs generalizing v with
  | nil =>
    rw [items, String.toList_empty, List.append_nil]
    exact .lastItem (each v List.mem_cons_self) behind
  | cons w vs ih =>
    obtain ⟨before, ahead, separator⟩ := toList_separator layout depth
    have more := ih fun x member => each x (List.mem_cons_of_mem v member)
    have text := Writes.moreItems (each v List.mem_cons_self) (List.forall_mem_nil _) ahead more
    simpa [items, separator] using text

theorem writes_members {name : String} {v : Value} {ms : List (String × Value)}
    (each : ∀ p ∈ (name, v) :: ms, Writes (.value p.2) (value layout (depth + 1) p.2).toList) :
    Writes (.members ((name, v) :: ms)) ((quote name).toList ++ (": ".toList ++
      (value layout (depth + 1) v).toList ++ (members layout depth ms).toList ++ after)) := by
  have content := content_escaped name.toList
  have gap : Blanks [] := List.forall_mem_nil _
  have blank : Blanks [' '] := List.forall_mem_singleton.mpr .space
  have here := each (name, v) List.mem_cons_self
  induction ms generalizing name v with
  | nil =>
    have text := Writes.lastMember content gap blank here behind
    simpa [toList_quote, members] using text
  | cons p ms ih =>
    obtain ⟨next, w⟩ := p
    obtain ⟨before, ahead, separator⟩ := toList_separator layout depth
    have later : ∀ q ∈ (next, w) :: ms, _ := fun q member => each q (List.mem_cons_of_mem _ member)
    have more := ih later (content_escaped next.toList) (later (next, w) List.mem_cons_self)
    have text := Writes.moreMembers content gap blank here gap ahead more
    simpa [toList_quote, members, separator] using text

end

theorem writes_value {v : Value} (lossless : v.Lossless) (layout : Layout) (depth : Nat) :
    Writes (.value v) (value layout depth v).toList := by
  -- What closes a container belongs to its last item, as the white space behind that.
  induction lossless generalizing depth with
  | null => simpa [value] using Writes.literal .null
  | bool b =>
    cases b with
    | false => simpa [value] using Writes.literal .false
    | true => simpa [value] using Writes.literal .true
  | int short => exact writes_int short
  | string s => exact writes_string s
  | @array vs _ ih =>
    cases vs with
    | nil =>
      have text := Writes.emptyArray (List.forall_mem_nil _)
      simpa [value] using text
    | cons v vs =>
      have inside := writes_items (blanks_closing layout depth) fun w member => ih w member (depth + 1)
      have text := Writes.array (blanks_opening layout depth) inside
      simpa [value] using text
  | @object ms distinct _ ih =>
    cases ms with
    | nil =>
      have text := Writes.emptyObject (List.forall_mem_nil _)
      simpa [value] using text
    | cons p ms =>
      obtain ⟨name, v⟩ := p
      have inside := writes_members (blanks_closing layout depth) fun q member => ih q member (depth + 1)
      have text := Writes.object (blanks_opening layout depth) inside
      rw [putAll_of_nodup distinct] at text
      simpa [value] using text

end Writer

theorem Lossless.isText {v : Value} (lossless : v.Lossless) (layout : Writer.Layout) {after : List Char}
    (behind : Blanks after) : IsText v ((Writer.value layout 0 v).toList ++ after) :=
  .intro (List.forall_mem_nil _) (Writer.writes_value lossless layout 0) behind

end Value

end JsonPath
