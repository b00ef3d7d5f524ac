import TorusAutomaton.Toml
import Mathlib.Data.Option.Basic
import Mathlib.Tactic.Common

/-! Integers and quoted text at the end of a line of a TOML text. An integer written in decimal
digits is read back as itself if it is a signed word and is refused if it is none; text between
quotes is read as it stands. Of what kind a value is can often be told from its first character. -/
namespace TorusAutomaton

namespace Text

theorem valueOf_eq_ofDigitChars {cs : List Char} (h : ∀ c ∈ cs, isDecimal c = true) :
    valueOf 10 cs = Nat.ofDigitChars 10 cs 0 := by
  have hfold : ∀ (cs : List Char) (m : Nat), (∀ c ∈ cs, isDecimal c = true) →
      cs.foldl (fun n c => 10 * n + digitValue c) m = Nat.ofDigitChars 10 cs m := by
    intro cs
    induction cs with
    | nil => intro m _; rfl
    | cons c cs ih =>
      intro m h
      rw [List.foldl_cons, digitValue, if_pos (h c (by simp)), Nat.ofDigitChars_cons]
      exact ih _ fun d hd => h d (List.mem_cons_of_mem _ hd)
  exact hfold cs 0 h

theorem valueOf_toDigits (n : Nat) : valueOf 10 (Nat.toDigits 10 n) = n := by
  have hdigits : ∀ c ∈ Nat.toDigits 10 n, isDecimal c = true := fun c hc =>
    Nat.isDigit_of_mem_toDigits (by decide) (by decide) hc
  rw [valueOf_eq_ofDigitChars hdigits, Nat.ofDigitChars_ten_toDigits]

theorem head_toDigits_ne_zero {n : Nat} (hn : 0 < n) {c : Char} {cs : List Char}
    (h : Nat.toDigits 10 n = c :: cs) : c ≠ '0' := by
  induction n using Nat.strongRecOn generalizing cs with
  | ind n ih =>
    rw [Nat.toDigits_eq_if (by decide)] at h
    split at h
    · next hlt =>
      obtain ⟨rfl, -⟩ := List.cons.inj h
      intro hz
      have := Nat.digitChar_eq_zero.1 hz
      omega
    · next hge =>
      cases hd : Nat.toDigits 10 (n / 10) with
      | nil => exact absurd hd Nat.toDigits_ne_nil
      | cons d ds =>
        rw [hd, List.cons_append] at h
        obtain ⟨rfl, -⟩ := List.cons.inj h
        exact ih (n / 10) (by omega) (by omega) hd

end Text

namespace Toml

open Text (isDecimal valueOf)

inductive LineEnd where
  | feed
  | returnFeed
  deriving DecidableEq, Repr

def LineEnd.text : LineEnd → List Char
  | .feed => ['\n']
  | .returnFeed => ['\r', '\n']

/-- Whether a line ends here, with the text or with a line end. -/
def Ended (cs : List Char) : Prop := cs = [] ∨ ∃ (e : LineEnd) (r : List Char), cs = e.text ++ r

theorem Ended.head {c : Char} {r : List Char} (h : Ended (c :: r)) : c = '\n' ∨ c = '\r' := by
  rcases h with h | ⟨e, r', h⟩
  · cases h
  · cases e with
    | feed => exact .inl (List.cons.inj h).1
    | returnFeed => exact .inr (List.cons.inj h).1

theorem Ended.dropWhile {cs : List Char} (h : Ended cs) : cs.dropWhile isDecimal = cs := by
  cases cs with
  | nil => rfl
  | cons c r => rcases h.head with rfl | rfl <;> rfl

theorem moreDigits_append {ds rest : List Char} (hd : ∀ c ∈ ds, isDecimal c = true)
    (hr : Ended rest) : moreDigits isDecimal (ds ++ rest) = (ds, rest) := by
  induction ds with
  | nil =>
    cases rest with
    | nil => rfl
    | cons c r => rcases hr.head with rfl | rfl <;> simp [moreDigits, isDecimal]
  | cons d ds ih =>
    have hds := ih fun c hc => hd c (List.mem_cons_of_mem _ hc)
    rw [List.cons_append, moreDigits.eq_def]
    simp only [hd d (by simp), if_true, hds]

theorem wholeDigits?_toDigits (n : Nat) {rest : List Char} (hr : Ended rest) :
    wholeDigits? (Nat.toDigits 10 n ++ rest) = some (Nat.toDigits 10 n, rest) := by
  have hdigits : ∀ c ∈ Nat.toDigits 10 n, isDecimal c = true := fun c hc =>
    Nat.isDigit_of_mem_toDigits (by decide) (by decide) hc
  rcases Nat.eq_zero_or_pos n with rfl | hn
  · rfl
  · cases hd : Nat.toDigits 10 n with
    | nil => exact absurd hd Nat.toDigits_ne_nil
    | cons d ds =>
      have hne := Text.head_toDigits_ne_zero hn hd
      rw [hd] at hdigits
      have hmore := moreDigits_append (fun c hc => hdigits c (List.mem_cons_of_mem _ hc)) hr
      rw [List.cons_append, wholeDigits?.eq_def]
      split
      · next h => exact absurd (List.cons.inj h).1 hne
      · simp only [digits?, hdigits d (by simp), if_true, hmore]

theorem fixedDigits?_dropWhile {n : Nat} {cs ds r : List Char}
    (h : fixedDigits? n cs = some (ds, r)) : r.dropWhile isDecimal = cs.dropWhile isDecimal := by
  induction n generalizing cs ds with
  | zero =>
    cases h
    rfl
  | succ n ih =>
    cases cs with
    | nil => cases h
    | cons c cs =>
      rw [fixedDigits?] at h
      split at h
      · next hc =>
        obtain ⟨⟨es, r'⟩, hes, heq⟩ := Option.map_eq_some_iff.1 h
        obtain ⟨-, rfl⟩ := Prod.mk.inj heq
        rw [ih hes, List.dropWhile_cons, if_pos hc]
      · cases h

/-- Where decimal digits run up to the end of a line, no sign that could stand
in a date follows any of them. -/
theorem fixedNumber?_bind_expect? {n : Nat} {cs : List Char} {c : Char} (hc : isDecimal c = false)
    (hcs : ∀ r, cs.dropWhile isDecimal ≠ c :: r) :
    ((fixedNumber? n cs).bind fun x => expect? c x.2) = none := by
  rw [Option.bind_eq_none_iff]
  rintro ⟨m, r⟩ hm
  obtain ⟨⟨ds, r'⟩, hds, heq⟩ := Option.map_eq_some_iff.1 hm
  obtain ⟨-, rfl⟩ := Prod.mk.inj heq
  cases r' with
  | nil => rfl
  | cons d r' =>
    dsimp only [expect?]
    split
    · next hdc =>
      obtain rfl := eq_of_beq hdc
      have hdrop := fixedDigits?_dropWhile hds
      rw [List.dropWhile_cons, if_neg (by simp [hc])] at hdrop
      exact absurd hdrop.symm (hcs r')
    · rfl

theorem dateTime?_eq_none {cs : List Char} (hdash : ∀ r, cs.dropWhile isDecimal ≠ '-' :: r)
    (hcolon : ∀ r, cs.dropWhile isDecimal ≠ ':' :: r) : dateTime? cs = none := by
  have hdate : date? cs = none := by
    have hyear := fixedNumber?_bind_expect? (n := 4) rfl hdash
    rw [date?]
    cases hm : fixedNumber? 4 cs with
    | none => rfl
    | some x =>
      rw [hm] at hyear
      simp only [Option.bind_some] at hyear
      simp only [bind, Option.bind, hyear]
  have hclock : clock? cs = none := by
    have hhour := fixedNumber?_bind_expect? (n := 2) rfl hcolon
    rw [clock?]
    cases hm : fixedNumber? 2 cs with
    | none => rfl
    | some x =>
      rw [hm] at hhour
      simp only [Option.bind_some] at hhour
      simp only [bind, Option.bind, hhour]
  have htime : time? cs = none := by
    rw [time?, hclock]
    rfl
  rw [dateTime?, hdate]
  exact htime

theorem toDigits_eq_cons (n : Nat) : ∃ d ds, Nat.toDigits 10 n = d :: ds ∧ isDecimal d = true := by
  cases hd : Nat.toDigits 10 n with
  | nil => exact absurd hd Nat.toDigits_ne_nil
  | cons d ds =>
    have hmem : d ∈ Nat.toDigits 10 n := by simp [hd]
    exact ⟨d, ds, rfl, Nat.isDigit_of_mem_toDigits (by decide) (by decide) hmem⟩

theorem ne_of_isDecimal {d c : Char} (hd : isDecimal d = true) (hc : isDecimal c = false) :
    d ≠ c := by
  rintro rfl
  rw [hd] at hc
  cases hc

theorem sign_of_isDecimal {d : Char} (hd : isDecimal d = true) (cs : List Char) :
    sign (d :: cs) = (false, d :: cs) := by
  rw [sign.eq_def]
  split
  · next h => exact absurd (List.cons.inj h).1 (ne_of_isDecimal hd rfl)
  · next h => exact absurd (List.cons.inj h).1 (ne_of_isDecimal hd rfl)
  · rfl

theorem special?_of_isDecimal {d : Char} (hd : isDecimal d = true) (negative : Bool)
    (cs : List Char) : special? negative (d :: cs) = none := by
  rw [special?.eq_def]
  split
  · next h => exact absurd (List.cons.inj h).1 (ne_of_isDecimal hd rfl)
  · next h => exact absurd (List.cons.inj h).1 (ne_of_isDecimal hd rfl)
  · rfl

theorem fractional?_toDigits (negative : Bool) (n : Nat) {rest : List Char} (hr : Ended rest) :
    fractional? negative (Nat.toDigits 10 n ++ rest) = none := by
  rw [fractional?, wholeDigits?_toDigits n hr]
  cases rest with
  | nil => rfl
  | cons c r => rcases hr.head with rfl | rfl <;> rfl

theorem toList_toString (n : Int) :
    (toString n).toList =
      (if 0 ≤ n then [] else ['-']) ++ Nat.toDigits 10 n.natAbs := by
  rw [Int.toString_eq_repr, Int.repr_eq_if]
  split
  · next h =>
    have habs : n.toNat = n.natAbs := by omega
    rw [Nat.toList_repr, habs]
    rfl
  · next h =>
    have habs : (-n).toNat = n.natAbs := by omega
    rw [String.toList_append, Nat.toList_repr, habs]
    rfl

theorem sign_toString (n : Int) (rest : List Char) :
    sign ((toString n).toList ++ rest) = (decide (n < 0), Nat.toDigits 10 n.natAbs ++ rest) := by
  rw [toList_toString]
  split
  · next h =>
    obtain ⟨d, ds, hds, hd⟩ := toDigits_eq_cons n.natAbs
    rw [hds, List.nil_append, List.cons_append, sign_of_isDecimal hd]
    simp [Int.not_lt.2 h]
  · next h =>
    have hneg : n < 0 := by omega
    simp [sign, hneg]

theorem float?_toString (n : Int) {rest : List Char} (hr : Ended rest) :
    float? ((toString n).toList ++ rest) = none := by
  obtain ⟨d, ds, hds, hd⟩ := toDigits_eq_cons n.natAbs
  rw [float?, sign_toString]
  dsimp only
  rw [fractional?_toDigits _ _ hr]
  dsimp only
  rw [hds, List.cons_append, special?_of_isDecimal hd]

theorem dateTime?_toString (n : Int) {rest : List Char} (hr : Ended rest) :
    dateTime? ((toString n).toList ++ rest) = none := by
  rw [toList_toString]
  split
  · -- a positive number is all digits up to the end of its line
    have hdigits : ∀ c ∈ Nat.toDigits 10 n.natAbs, isDecimal c = true := fun c hc =>
      Nat.isDigit_of_mem_toDigits (by decide) (by decide) hc
    have hdrop : (Nat.toDigits 10 n.natAbs ++ rest).dropWhile isDecimal = rest := by
      rw [List.dropWhile_append_of_pos hdigits, hr.dropWhile]
    rw [List.nil_append]
    apply dateTime?_eq_none
    · intro r h
      rw [hdrop] at h
      subst h
      rcases hr.head with h | h <;> exact absurd h (by decide)
    · intro r h
      rw [hdrop] at h
      subst h
      rcases hr.head with h | h <;> exact absurd h (by decide)
  · -- a negative one does not begin with the digit that a date needs
    rfl

theorem toString_append_ne (n : Int) {rest r : List Char} {c : Char} (hr : Ended rest)
    (hc : c ≠ '\n' ∧ c ≠ '\r') : (toString n).toList ++ rest ≠ '0' :: c :: r := by
  intro h
  rw [toList_toString] at h
  split at h
  · rcases Nat.eq_zero_or_pos n.natAbs with hz | hpos
    · rw [hz, Nat.toDigits_zero] at h
      obtain rfl := (List.cons.inj h).2
      rcases hr.head with h | h
      · exact hc.1 h
      · exact hc.2 h
    · obtain ⟨d, ds, hds, hd⟩ := toDigits_eq_cons n.natAbs
      rw [hds] at h
      exact Text.head_toDigits_ne_zero hpos hds (List.cons.inj h).1
  · exact absurd (List.cons.inj h).1 (by decide)

theorem unchecked?_toString (n : Int) {rest : List Char} (hr : Ended rest) :
    unchecked? ((toString n).toList ++ rest) = some (n, rest) := by
  have hdecimal : decimal? ((toString n).toList ++ rest) = some (n, rest) := by
    rw [decimal?, sign_toString]
    dsimp only
    rw [wholeDigits?_toDigits _ hr]
    have hvalue : signed (decide (n < 0)) (valueOf 10 (Nat.toDigits 10 n.natAbs)) = n := by
      rw [Text.valueOf_toDigits, signed]
      split
      · next h =>
        have := of_decide_eq_true h
        omega
      · next h =>
        have : ¬ n < 0 := fun hn => h (decide_eq_true hn)
        omega
    simp only [bind, Option.bind, pure, hvalue]
  rw [unchecked?.eq_def]
  split
  · next h => exact absurd h (toString_append_ne n hr (by decide))
  · next h => exact absurd h (toString_append_ne n hr (by decide))
  · next h => exact absurd h (toString_append_ne n hr (by decide))
  · exact hdecimal

/-- Whether an integer is one that a text can have. -/
def IsWord (n : Int) : Prop := -0x8000000000000000 ≤ n ∧ n < 0x8000000000000000

instance (n : Int) : Decidable (IsWord n) := inferInstanceAs (Decidable (_ ∧ _))

theorem isWord_natCast {n : Nat} (hn : n < 0x8000000000000000) : IsWord n :=
  ⟨by omega, by omega⟩

theorem numeral?_toString (n : Int) {rest : List Char} (hr : Ended rest) :
    numeral? ((toString n).toList ++ rest) =
      if IsWord n then some (.integer n, rest) else none := by
  rw [numeral?, dateTime?_toString n hr]
  dsimp only
  rw [float?_toString n hr]
  dsimp only
  rw [integer?, unchecked?_toString n hr]
  by_cases hn : IsWord n
  · rw [if_pos hn]
    simp only [bind, Option.bind, if_pos (show _ ∧ _ from hn)]
    rfl
  · rw [if_neg hn]
    simp only [bind, Option.bind, if_neg (show ¬ (_ ∧ _) from hn)]
    rfl

theorem toString_eq_cons (n : Int) :
    ∃ c cs, (toString n).toList = c :: cs ∧ (c = '-' ∨ isDecimal c = true) := by
  rw [toList_toString]
  obtain ⟨d, ds, hds, hd⟩ := toDigits_eq_cons n.natAbs
  split
  · exact ⟨d, ds, hds, .inr hd⟩
  · exact ⟨'-', _, rfl, .inl rfl⟩

theorem scalarValue?_of_numeral {c : Char} (hc : c = '-' ∨ isDecimal c = true) (cs : List Char) :
    scalarValue? (c :: cs) = numeral? (c :: cs) := by
  have hne : ∀ d, isDecimal d = false → d ≠ '-' → c ≠ d := by
    intro d hd hdash
    rcases hc with rfl | hc
    · exact hdash.symm
    · exact ne_of_isDecimal hc hd
  have hsign : (c == '+' || c == '-' || isDecimal c) = true := by
    rcases hc with rfl | hc
    · rfl
    · simp [hc]
  rw [scalarValue?.eq_def]
  split
  · next h => exact absurd (List.cons.inj h).1 (hne _ rfl (by decide))
  · next h => exact absurd (List.cons.inj h).1 (hne _ rfl (by decide))
  · next c' _ _ _ h =>
    obtain rfl := (List.cons.inj h).1
    have hquote : (c == '"' || c == '\'') = false := by
      simp [hne '"' rfl (by decide), hne '\'' rfl (by decide)]
    rw [if_neg (by simp [hquote]), if_pos hsign]
  · next h => cases h

theorem readValue?_eq_scalarValue? {c : Char} (hc : c ≠ '[' ∧ c ≠ '\x7b') (cs : List Char) :
    readValue? (c :: cs) = scalarValue? (c :: cs) := by
  rw [readValue?, value?.eq_def]
  split
  · next h => omega
  · next h => exact absurd (List.cons.inj h).1 hc.1
  · next h => exact absurd (List.cons.inj h).1 hc.2
  · rfl

theorem readValue?_integer (n : Int) {rest : List Char} (hr : Ended rest) :
    readValue? ((toString n).toList ++ rest) =
      if IsWord n then some (.integer n, rest) else none := by
  obtain ⟨c, cs, hcs, hc⟩ := toString_eq_cons n
  have hopen : c ≠ '[' ∧ c ≠ '\x7b' := by
    rcases hc with rfl | hc
    · decide
    · exact ⟨ne_of_isDecimal hc rfl, ne_of_isDecimal hc rfl⟩
  rw [← numeral?_toString n hr, hcs, List.cons_append, readValue?_eq_scalarValue? hopen,
    scalarValue?_of_numeral hc]

/-- Characters that stand for themselves between double quotes. -/
def Unescaped (c : Char) : Prop := c ≠ '"' ∧ c ≠ '\\' ∧ 0x20 ≤ c.toNat ∧ c.toNat ≠ 0x7f

instance (c : Char) : Decidable (Unescaped c) := inferInstanceAs (Decidable (_ ∧ _))

theorem unescaped_of_all {s : String} (h : s.toList.all (fun c => decide (Unescaped c)) = true) :
    ∀ c ∈ s.toList, Unescaped c := fun c hc => of_decide_eq_true (List.all_eq_true.1 h c hc)

theorem basicBody_append {cs rest : List Char} (hcs : ∀ c ∈ cs, Unescaped c) {fuel : Nat}
    (hf : cs.length < fuel) : basicBody fuel (cs ++ '"' :: rest) = some (cs, rest) := by
  induction cs generalizing fuel with
  | nil =>
    obtain ⟨fuel, rfl⟩ : ∃ k, fuel = k + 1 := ⟨fuel - 1, by simp at hf; omega⟩
    rfl
  | cons c cs ih =>
    obtain ⟨fuel, rfl⟩ : ∃ k, fuel = k + 1 := ⟨fuel - 1, by simp at hf; omega⟩
    obtain ⟨hquote, hslash, hlow, hdel⟩ := hcs c (by simp)
    have hplain : isPlain c = true := by simp [isPlain, hlow, hdel]
    have hrest : basicBody fuel (cs ++ '"' :: rest) = some (cs, rest) :=
      ih (fun d hd => hcs d (List.mem_cons_of_mem _ hd)) (by simp at hf; omega)
    rw [List.cons_append, basicBody, if_neg (by simpa using hquote), if_neg (by simpa using hslash),
      if_pos hplain, hrest]
    rfl

theorem quotation?_append {cs rest : List Char} (hcs : ∀ c ∈ cs, Unescaped c) (hr : Ended rest) :
    quotation? ('"' :: (cs ++ '"' :: rest)) = some (cs, rest) := by
  have hbasic : basic? ('"' :: (cs ++ '"' :: rest)) = some (cs, rest) :=
    basicBody_append hcs (by
      rw [List.length_append, List.length_cons]
      omega)
  rw [quotation?.eq_def]
  split
  · next r h =>
    exfalso
    have htail := (List.cons.inj h).2
    cases cs with
    | nil =>
      obtain rfl := (List.cons.inj htail).2
      rcases hr.head with h | h <;> exact absurd h (by decide)
    | cons c cs => exact (hcs c (by simp)).1 (List.cons.inj htail).1
  · next h => exact absurd (List.cons.inj h).1 (by decide)
  · next h =>
    obtain rfl := (List.cons.inj h).2
    exact hbasic
  · next h => exact absurd (List.cons.inj h).1 (by decide)
  · next h _ => exact absurd rfl (h _)

theorem readValue?_string {s : String} {rest : List Char} (hs : ∀ c ∈ s.toList, Unescaped c)
    (hr : Ended rest) :
    readValue? ('"' :: (s.toList ++ '"' :: rest)) = some (.string s, rest) := by
  rw [readValue?_eq_scalarValue? (by decide)]
  have hscalar : scalarValue? ('"' :: (s.toList ++ '"' :: rest)) =
      (quotation? ('"' :: (s.toList ++ '"' :: rest))).map
        fun x => (.string (String.ofList x.1), x.2) := rfl
  rw [hscalar, quotation?_append hs hr]
  simp

/-- The characters that a value of a kind may begin with. -/
def Value.Opens : Value → Char → Prop
  | .string _, c => c = '"' ∨ c = '\''
  | .integer _, c => c = '+' ∨ c = '-' ∨ isDecimal c = true
  | .table _ _, c => c = '\x7b'
  | _, _ => True

theorem numeral?_cases {cs r : List Char} {v : Value} (h : numeral? cs = some (v, r)) :
    v = .moment ∨ (∃ x, v = .float x) ∨ ∃ n, v = .integer n := by
  rw [numeral?] at h
  split at h
  · cases h
    exact .inl rfl
  · split at h
    · cases h
      exact .inr (.inl ⟨_, rfl⟩)
    · obtain ⟨_, -, heq⟩ := Option.map_eq_some_iff.1 h
      cases heq
      exact .inr (.inr ⟨_, rfl⟩)

theorem scalarValue?_opens {c : Char} {cs r : List Char} {v : Value}
    (h : scalarValue? (c :: cs) = some (v, r)) : v.Opens c := by
  rw [scalarValue?.eq_def] at h
  split at h
  · cases h
    trivial
  · cases h
    trivial
  · next heq =>
    obtain ⟨rfl, -⟩ := List.cons.inj heq
    split at h
    · next hquote =>
      obtain ⟨_, -, hv⟩ := Option.map_eq_some_iff.1 h
      cases hv
      simpa [Value.Opens] using hquote
    · split at h
      · next hsign =>
        rcases numeral?_cases h with rfl | ⟨x, rfl⟩ | ⟨n, rfl⟩
        · trivial
        · trivial
        · simpa [Value.Opens, or_assoc] using hsign
      · obtain ⟨_, -, hv⟩ := Option.map_eq_some_iff.1 h
        cases hv
        trivial
  · next heq => cases heq

theorem readValue?_opens {c : Char} {cs r : List Char} {v : Value}
    (h : readValue? (c :: cs) = some (v, r)) : v.Opens c := by
  rw [readValue?, value?.eq_def] at h
  split at h
  · cases h
  · split at h
    · cases h
    · obtain ⟨_, -, hv⟩ := Option.map_eq_some_iff.1 h
      cases hv
      trivial
  · next heq =>
    obtain ⟨rfl, -⟩ := List.cons.inj heq
    split at h
    · cases h
    · split at h
      all_goals
        simp only [bind, Option.bind_eq_some_iff, pure, Option.some.injEq, Prod.mk.injEq] at h
        obtain ⟨_, -, es, -, rfl, -⟩ := h
        rfl
  · exact scalarValue?_opens h

end Toml

end TorusAutomaton
