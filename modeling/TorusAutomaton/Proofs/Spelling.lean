import TorusAutomaton.CommandLine
import TorusAutomaton.Proofs.Literals
import TorusAutomaton.Proofs.Reading
import Mathlib.Data.List.TakeWhile

/-! The many ways to say the same on the command line. Names are long or short, values stand apart
from them or not, and short names share an argument with others. Whatever the spelling, what was
said is what is read, if nothing is said twice. -/
namespace TorusAutomaton.CommandLine

open Text (isDecimal)

/-- One thing that arguments can say. -/
inductive Wish where
  | config (path : String)
  | setting (w : Setting)
  | verbose

def Name.long : Name → String
  | .parameter .config => "config"
  | .parameter .rows => "rows"
  | .parameter .cols => "cols"
  | .parameter .generations => "generations"
  | .parameter .pattern => "pattern"
  | .parameter .rule => "rule"
  | .switch .verbose => "verbose"
  | .switch .help => "help"
  | .switch .version => "version"

def Name.short? : Name → Option Char
  | .parameter .config => some 'c'
  | .parameter .rows | .parameter .cols => none
  | .parameter .generations => some 'g'
  | .parameter .pattern => some 'p'
  | .parameter .rule => some 'r'
  | .switch .verbose => some 'v'
  | .switch .help => some 'h'
  | .switch .version => some 'V'

theorem Name.ofLong?_long (n : Name) : Name.ofLong? n.long = some n := by
  cases n with
  | parameter p => cases p <;> rfl
  | switch s => cases s <;> rfl

theorem Name.ofShort?_short {n : Name} {c : Char} (h : n.short? = some c) :
    Name.ofShort? c = some n := by
  cases n with
  | parameter p =>
    cases p <;> cases h <;> rfl
  | switch s => cases s <;> cases h <;> rfl

theorem Name.long_chars (n : Name) :
    n.long.toList ≠ [] ∧ ∀ c ∈ n.long.toList, (c != '=') = true := by
  cases n with
  | parameter p => cases p <;> exact ⟨by decide, List.all_eq_true.1 rfl⟩
  | switch s => cases s <;> exact ⟨by decide, List.all_eq_true.1 rfl⟩

def parameterOf : Part → Parameter
  | .rows => .rows
  | .cols => .cols
  | .generations => .generations
  | .pattern => .pattern
  | .rule => .rule

def Wish.name : Wish → Name
  | .config _ => .parameter .config
  | .setting w => .parameter (parameterOf w.part)
  | .verbose => .switch .verbose

/-- Decimal digits that write a number. A plus sign may precede them. -/
def Numeral (text : String) (n : Nat) : Prop :=
  ∃ ds : List Char, (text.toList = ds ∨ text.toList = '+' :: ds) ∧ ds ≠ [] ∧
    (∀ c ∈ ds, isDecimal c = true) ∧ Nat.ofDigitChars 10 ds 0 = n

/-- The values that say what the content of a part is to be. -/
inductive Means : String → Setting → Prop where
  | rows {text : String} {n : Nat} : Numeral text n → n < 0x10000000000000000 →
      Means text ⟨.rows, n⟩
  | cols {text : String} {n : Nat} : Numeral text n → n < 0x10000000000000000 →
      Means text ⟨.cols, n⟩
  | generations {text : String} {n : Nat} : Numeral text n → n < 0x100000000 →
      Means text ⟨.generations, n⟩
  | pattern (s : String) : Means s ⟨.pattern, s⟩
  | rule (r : NamedRule) : Means r.name ⟨.rule, r⟩

/-- Values that stand out from names: they are not empty, and begin neither like a name nor like the
sign between a name and its value. -/
def Plain (value : String) : Prop := ∃ c cs, value.toList = c :: cs ∧ c ≠ '-' ∧ c ≠ '='

theorem Plain.isEmpty_eq_false {v : String} (h : Plain v) : v.isEmpty = false := by
  obtain ⟨c, cs, hv, -⟩ := h
  by_contra hempty
  have hnil : v = "" := String.isEmpty_iff.1 (by simpa using hempty)
  rw [hnil] at hv
  cases hv

inductive Wish.Value : Wish → String → Prop where
  | config {path : String} : Plain path → (config path).Value path
  | setting {text : String} {w : Setting} : Plain text → Means text w → (setting w).Value text

/-- What one argument of short names says, with the names and the arguments
that follow. Switches come first; a last parameter has its value attached,
behind an equals sign or in an argument of its own. -/
inductive Cluster : List Wish → List Char → List String → Prop where
  | switch : Cluster [.verbose] ['v'] []
  | attached {w : Wish} {c : Char} {v : String} : w.name.short? = some c → w.Value v →
      Cluster [w] (c :: v.toList) []
  | equals {w : Wish} {c : Char} {v : String} : w.name.short? = some c → w.Value v →
      Cluster [w] (c :: '=' :: v.toList) []
  | apart {w : Wish} {c : Char} {v : String} : w.name.short? = some c → w.Value v →
      Cluster [w] [c] [v]
  | more {ws : List Wish} {cs : List Char} {args : List String} : Cluster ws cs args →
      Cluster (.verbose :: ws) ('v' :: cs) args

/-- Arguments that say something, in this order. -/
inductive Spelled : List Wish → List String → Prop where
  | nil : Spelled [] []
  | long {w : Wish} {v : String} {ws : List Wish} {args : List String} : w.Value v →
      Spelled ws args → Spelled (w :: ws) (("--" ++ w.name.long) :: v :: args)
  | longEquals {w : Wish} {v : String} {ws : List Wish} {args : List String} : w.Value v →
      Spelled ws args → Spelled (w :: ws) (("--" ++ w.name.long ++ "=" ++ v) :: args)
  | longSwitch {ws : List Wish} {args : List String} : Spelled ws args →
      Spelled (.verbose :: ws) ("--verbose" :: args)
  | short {us ws : List Wish} {cs : List Char} {more args : List String} : Cluster us cs more →
      Spelled ws args → Spelled (us ++ ws) (String.ofList ('-' :: cs) :: (more ++ args))

namespace Arguments

def get (a : Arguments) : (p : Part) → Option p.Content
  | .rows => a.rows
  | .cols => a.cols
  | .generations => a.generations
  | .pattern => a.pattern
  | .rule => a.rule

def take (a : Arguments) : Wish → Arguments
  | .config path => { a with config := some path }
  | .setting ⟨.rows, n⟩ => { a with rows := some n }
  | .setting ⟨.cols, n⟩ => { a with cols := some n }
  | .setting ⟨.generations, n⟩ => { a with generations := some n }
  | .setting ⟨.pattern, s⟩ => { a with pattern := some s }
  | .setting ⟨.rule, r⟩ => { a with rule := some r }
  | .verbose => { a with verbose := true }

theorem natural?_of_numeral {text : String} {n : Nat} (h : Numeral text n) :
    Text.natural? text.toList = some n := by
  obtain ⟨ds, htext, hne, hdigits, rfl⟩ := h
  have hread : (if ds.isEmpty ∨ ¬ ds.all isDecimal then none else some (Text.valueOf 10 ds)) =
      some (Nat.ofDigitChars 10 ds 0) := by
    rw [if_neg (by simpa [hne] using hdigits), Text.valueOf_eq_ofDigitChars hdigits]
  rcases htext with htext | htext
  · rw [htext, Text.natural?.eq_def]
    dsimp only
    split
    · exact absurd (hdigits '+' (by simp)) (by decide)
    · exact hread
  · rw [htext]
    exact hread

theorem readSize?_of_numeral {text : String} {n : Nat} (h : Numeral text n)
    (hn : n < 0x10000000000000000) : readSize? text = some n := by
  rw [readSize?, natural?_of_numeral h]
  simp [hn]

theorem readCount?_of_numeral {text : String} {n : Nat} (h : Numeral text n)
    (hn : n < 0x100000000) : readCount? text = some n := by
  have hread := natural?_of_numeral h
  obtain ⟨ds, htext, -, hdigits, -⟩ := h
  have hminus : ∀ r, text.toList ≠ '-' :: r := by
    intro r hr
    rcases htext with htext | htext
    · rw [← htext, hr] at hdigits
      exact absurd (hdigits '-' (by simp)) (by decide)
    · rw [htext] at hr
      exact absurd (List.cons.inj hr).1 (by decide)
  rw [readCount?.eq_def]
  split
  · next hr => exact absurd hr (hminus _)
  · next hr => exact absurd hr (hminus _)
  · rw [hread]
    simp [hn]

theorem give_config {a : Arguments} {path : String} (hpath : path.isEmpty = false)
    (hnew : a.has .config = false) : a.give .config path = .ok (a.take (.config path)) := by
  rw [give.eq_def, if_neg (by simp [hnew])]
  exact if_neg (by simp [hpath])

theorem give_of_value {a : Arguments} {w : Wish} {p : Parameter} {v : String} (hv : w.Value v)
    (hp : w.name = .parameter p) (hnew : a.has p = false) : a.give p v = .ok (a.take w) := by
  cases hv with
  | config hplain =>
    cases hp
    exact give_config hplain.isEmpty_eq_false hnew
  | setting hplain hv =>
    rw [give.eq_def, if_neg (by simp [hnew])]
    cases hv with
    | rows hnum hn =>
      cases hp
      simp only [readSize?_of_numeral hnum hn]
      rfl
    | cols hnum hn =>
      cases hp
      simp only [readSize?_of_numeral hnum hn]
      rfl
    | generations hnum hn =>
      cases hp
      simp only [readCount?_of_numeral hnum hn]
      rfl
    | pattern s =>
      cases hp
      rfl
    | rule r =>
      cases hp
      have hname : NamedRule.ofName? r.name = some r := NamedRule.ofName?_eq_some_iff.2 rfl
      simp only [parameterOf, hname]
      rfl

/-- Everything that was said, and nothing else, stands in the arguments. -/
structure Holds (a : Arguments) (ws : List Wish) : Prop where
  config : ∀ path, a.config = some path ↔ .config path ∈ ws
  setting : ∀ p x, a.get p = some x ↔ .setting ⟨p, x⟩ ∈ ws
  verbose : a.verbose = true ↔ .verbose ∈ ws

theorem holds_nil : Holds {} [] where
  config := by simp
  setting := by
    intro p x
    cases p <;> simp [get]
  verbose := by simp

theorem has_parameterOf (a : Arguments) (p : Part) : a.has (parameterOf p) = (a.get p).isSome := by
  cases p <;> rfl

theorem get_take_setting (a : Arguments) (w : Setting) :
    (a.take (.setting w)).get w.part = some w.content := by
  obtain ⟨p, x⟩ := w
  cases p <;> rfl

theorem get_take_of_ne (a : Arguments) {w : Setting} {p : Part} (h : p ≠ w.part) :
    (a.take (.setting w)).get p = a.get p := by
  obtain ⟨p', x⟩ := w
  cases p' <;> cases p <;> first | rfl | exact absurd rfl h

theorem config_take_setting (a : Arguments) (w : Setting) :
    (a.take (.setting w)).config = a.config := by
  obtain ⟨p, x⟩ := w
  cases p <;> rfl

theorem verbose_take_setting (a : Arguments) (w : Setting) :
    (a.take (.setting w)).verbose = a.verbose := by
  obtain ⟨p, x⟩ := w
  cases p <;> rfl

variable {a : Arguments} {ws : List Wish} {w : Wish}

theorem not_mem_of_name {x : Wish} (hnew : w.name ∉ ws.map Wish.name) (hx : x.name = w.name) :
    x ∉ ws := by
  intro hmem
  apply hnew
  rw [← hx]
  exact List.mem_map_of_mem hmem

theorem Holds.has_eq_false (h : a.Holds ws) {p : Parameter} (hp : w.name = .parameter p)
    (hnew : w.name ∉ ws.map Wish.name) : a.has p = false := by
  by_contra hhas
  rw [Bool.not_eq_false] at hhas
  cases w with
  | config path =>
    cases hp
    obtain ⟨path', hpath⟩ := Option.isSome_iff_exists.1 hhas
    exact not_mem_of_name (x := .config path') hnew rfl ((h.config path').1 hpath)
  | setting w =>
    cases hp
    rw [has_parameterOf] at hhas
    obtain ⟨x, hx⟩ := Option.isSome_iff_exists.1 hhas
    exact not_mem_of_name (x := .setting ⟨w.part, x⟩) hnew rfl ((h.setting w.part x).1 hx)
  | verbose => cases hp

theorem Holds.take_config (h : a.Holds ws) {path : String}
    (hnew : (Wish.config path).name ∉ ws.map Wish.name) :
    (a.take (.config path)).Holds (ws ++ [.config path]) where
  config := by
    intro path'
    have hnone : Wish.config path' ∉ ws := not_mem_of_name hnew rfl
    simp [Arguments.take, hnone, eq_comm]
  setting := by
    intro p x
    have hget : (a.take (.config path)).get p = a.get p := by cases p <;> rfl
    simp [hget, h.setting]
  verbose := by simp [Arguments.take, h.verbose]

theorem Holds.take_setting (h : a.Holds ws) {w : Setting}
    (hnew : (Wish.setting w).name ∉ ws.map Wish.name) :
    (a.take (.setting w)).Holds (ws ++ [.setting w]) where
  config := by
    intro path
    simp [config_take_setting, h.config]
  setting := by
    intro p x
    by_cases hp : p = w.part
    · subst hp
      have hnone : Wish.setting ⟨w.part, x⟩ ∉ ws := not_mem_of_name hnew rfl
      rw [get_take_setting, Option.some.injEq, List.mem_append, List.mem_singleton]
      constructor
      · rintro rfl
        exact .inr rfl
      · rintro (hmem | heq)
        · exact absurd hmem hnone
        · cases w
          cases heq
          rfl
    · rw [get_take_of_ne a hp, h.setting, List.mem_append, List.mem_singleton]
      constructor
      · exact .inl
      · rintro (hmem | heq)
        · exact hmem
        · cases heq
          exact absurd rfl hp
  verbose := by simp [verbose_take_setting, h.verbose]

theorem Holds.take_verbose (h : a.Holds ws) : (a.take .verbose).Holds (ws ++ [.verbose]) where
  config := by
    intro path
    simp [Arguments.take, h.config]
  setting := by
    intro p x
    have hget : (a.take .verbose).get p = a.get p := by cases p <;> rfl
    simp [hget, h.setting]
  verbose := by simp [Arguments.take]

theorem Holds.take (h : a.Holds ws) (hnew : w.name ∉ ws.map Wish.name) :
    (a.take w).Holds (ws ++ [w]) := by
  cases w with
  | config path => exact h.take_config hnew
  | setting w => exact h.take_setting hnew
  | verbose => exact h.take_verbose

end Arguments

namespace Reading

def Holds (r : Reading) (ws : List Wish) : Prop := ∃ a, r.settle = .ok a ∧ a.Holds ws

variable {r : Reading} {ws : List Wish} {w : Wish} {v : String} {p : Parameter}

theorem give_of_value (h : r.Holds ws) (hv : w.Value v) (hp : w.name = .parameter p)
    (hnew : w.name ∉ ws.map Wish.name) : ∃ r', r.give p v = .ok r' ∧ r'.Holds (ws ++ [w]) := by
  obtain ⟨a, hsettle, ha⟩ := h
  have hgive := Arguments.give_of_value hv hp (ha.has_eq_false hp hnew)
  refine ⟨⟨a.take w, none⟩, ?_, a.take w, rfl, ha.take hnew⟩
  simp only [give, hsettle, bind, Except.bind, hgive]
  rfl

theorem await_plain_of_value (h : r.Holds ws) (hv : w.Value v) (hp : w.name = .parameter p)
    (hnew : w.name ∉ ws.map Wish.name) :
    ∃ r' r'', r.await p = .ok r' ∧ r'.plain v = .ok r'' ∧ r''.Holds (ws ++ [w]) := by
  obtain ⟨a, hsettle, ha⟩ := h
  have hgive := Arguments.give_of_value hv hp (ha.has_eq_false hp hnew)
  refine ⟨⟨a, some ⟨p, none⟩⟩, ⟨a, some ⟨p, some v⟩⟩, ?_, rfl, a.take w, hgive, ha.take hnew⟩
  simp only [await, hsettle, bind, Except.bind]
  rfl

theorem turnOn_verbose (h : r.Holds ws) (hnew : Wish.verbose.name ∉ ws.map Wish.name) :
    ∃ r', r.turnOn .verbose = .ok r' ∧ r'.Holds (ws ++ [.verbose]) := by
  obtain ⟨a, hsettle, ha⟩ := h
  have hoff : a.verbose = false := by
    by_contra hon
    rw [Bool.not_eq_false, ha.verbose] at hon
    exact Arguments.not_mem_of_name hnew rfl hon
  refine ⟨⟨a.take .verbose, none⟩, ?_, a.take .verbose, rfl, ha.take hnew⟩
  simp only [turnOn, hsettle, bind, Except.bind, Arguments.turnOn, hoff]
  rfl

theorem long_of_name (r : Reading) (n : Name) :
    r.long n.long.toList = match n with
      | .parameter p => r.await p
      | .switch s => r.turnOn s := by
  have hchars := n.long_chars.2
  have htake : n.long.toList.takeWhile (· != '=') = n.long.toList :=
    List.takeWhile_eq_self_iff.2 hchars
  have hdrop : n.long.toList.dropWhile (· != '=') = [] := List.dropWhile_eq_nil_iff.2 hchars
  rw [long, htake, hdrop]
  simp only [String.ofList_toList, n.ofLong?_long]
  cases n <;> rfl

theorem long_of_equals (r : Reading) (p : Parameter) (v : String) :
    r.long ((Name.parameter p).long.toList ++ '=' :: v.toList) = r.give p v := by
  have hchars := (Name.parameter p).long_chars.2
  rw [long, List.takeWhile_append_of_pos hchars, List.dropWhile_append_of_pos hchars]
  simp [Name.ofLong?_long]

theorem argument_plain (r : Reading) (hv : Plain v) : r.argument v = r.plain v := by
  obtain ⟨c, cs, hcs, hdash, -⟩ := hv
  rw [argument.eq_def, hcs]
  split
  · next h => exact absurd (List.cons.inj h).1 hdash
  · next h => exact absurd (List.cons.inj h).1 hdash
  · rfl

theorem arguments_cons {arg : String} (harg : arg ≠ "--") (r : Reading) (args : List String) :
    arguments r (arg :: args) = (r.argument arg).bind fun r => arguments r args := by
  rw [arguments, if_neg harg]
  rfl

theorem arguments_plain (hv : Plain v) (r : Reading) (args : List String) :
    arguments r (v :: args) = (r.plain v).bind fun r => arguments r args := by
  have hne : v ≠ "--" := by
    rintro rfl
    obtain ⟨c, cs, hcs, hdash, -⟩ := hv
    exact hdash (List.cons.inj hcs).1.symm
  rw [arguments_cons hne, argument_plain r hv]

theorem arguments_long {arg : String} {cs : List Char} (harg : arg.toList = '-' :: '-' :: cs)
    (hcs : cs ≠ []) (r : Reading) (args : List String) :
    arguments r (arg :: args) = (r.long cs).bind fun r => arguments r args := by
  have hne : arg ≠ "--" := by
    rintro rfl
    exact hcs (List.cons.inj (List.cons.inj harg).2).2.symm
  rw [arguments_cons hne, argument.eq_def, harg]
  rfl

theorem arguments_short {c : Char} (hc : c ≠ '-') (cs : List Char) (r : Reading)
    (args : List String) :
    arguments r (String.ofList ('-' :: c :: cs) :: args) =
      (cluster (c :: cs) r).bind fun r => arguments r args := by
  have hlist : (String.ofList ('-' :: c :: cs)).toList = '-' :: c :: cs := String.toList_ofList
  have hne : String.ofList ('-' :: c :: cs) ≠ "--" := by
    intro h
    rw [h] at hlist
    exact hc (List.cons.inj (List.cons.inj hlist).2).1.symm
  rw [arguments_cons hne, argument.eq_def, hlist]
  split
  · next h => exact absurd (List.cons.inj (List.cons.inj h).2).1 hc
  · next h =>
    obtain ⟨rfl, rfl⟩ := List.cons.inj (List.cons.inj h).2
    rfl
  · next h => exact absurd rfl (h _ _)

theorem attached_of_value (hv : Plain v) : attached v.toList = v := by
  obtain ⟨c, cs, hcs, -, hequals⟩ := hv
  rw [attached.eq_def]
  split
  · next h =>
    rw [hcs] at h
    exact absurd (List.cons.inj h).1 hequals
  · exact String.ofList_toList

theorem new_of_nodup {us : List Wish} (once : ((ws ++ w :: us).map Wish.name).Nodup) :
    w.name ∉ ws.map Wish.name := by
  intro hmem
  rw [List.map_append, List.map_cons] at once
  exact List.disjoint_of_nodup_append once hmem List.mem_cons_self

end Reading

theorem Wish.Value.plain {w : Wish} {v : String} (h : w.Value v) : Plain v := by
  cases h with
  | config hplain => exact hplain
  | setting hplain _ => exact hplain

theorem Wish.Value.parameter {w : Wish} {v : String} (h : w.Value v) :
    ∃ p, w.name = .parameter p := by
  cases h with
  | config _ => exact ⟨_, rfl⟩
  | setting _ _ => exact ⟨_, rfl⟩

open Reading

theorem cluster_attached {n : Name} {c : Char} {p : Parameter} {cs : List Char}
    (hshort : n.short? = some c) (hp : n = .parameter p) (hcs : cs ≠ []) (r : Reading) :
    cluster (c :: cs) r = r.give p (attached cs) := by
  subst hp
  rw [cluster, Name.ofShort?_short hshort]
  simp [hcs]

theorem cluster_apart {n : Name} {c : Char} {p : Parameter} (hshort : n.short? = some c)
    (hp : n = .parameter p) (r : Reading) : cluster [c] r = r.await p := by
  subst hp
  rw [cluster, Name.ofShort?_short hshort]
  rfl

theorem Cluster.read {us ws : List Wish} {cs : List Char} {more : List String} {r : Reading}
    (hc : Cluster us cs more) (h : r.Holds ws) (once : ((ws ++ us).map Wish.name).Nodup) :
    ∃ r', r'.Holds (ws ++ us) ∧ ∀ args,
      ((cluster cs r).bind fun r => arguments r (more ++ args)) = arguments r' args := by
  induction hc generalizing r ws with
  | switch =>
    obtain ⟨r', hr, hr'⟩ := turnOn_verbose h (new_of_nodup once)
    refine ⟨r', hr', fun args => ?_⟩
    have hcluster : cluster ['v'] r = .ok r' := by
      simp only [cluster, Name.ofShort?, hr, bind, Except.bind]
    rw [hcluster]
    rfl
  | @attached w c v hshort hv =>
    obtain ⟨p, hp⟩ := hv.parameter
    obtain ⟨r', hr, hr'⟩ := give_of_value h hv hp (new_of_nodup once)
    have hne : v.toList ≠ [] := by
      obtain ⟨d, ds, hds, -⟩ := hv.plain
      simp [hds]
    refine ⟨r', hr', fun args => ?_⟩
    rw [cluster_attached hshort hp hne, attached_of_value hv.plain, hr]
    rfl
  | @equals w c v hshort hv =>
    obtain ⟨p, hp⟩ := hv.parameter
    obtain ⟨r', hr, hr'⟩ := give_of_value h hv hp (new_of_nodup once)
    have hattached : Reading.attached ('=' :: v.toList) = v := String.ofList_toList
    refine ⟨r', hr', fun args => ?_⟩
    rw [cluster_attached hshort hp (List.cons_ne_nil _ _), hattached, hr]
    rfl
  | @apart w c v hshort hv =>
    obtain ⟨p, hp⟩ := hv.parameter
    obtain ⟨r', r'', hr, hplain, hr''⟩ := await_plain_of_value h hv hp (new_of_nodup once)
    refine ⟨r'', hr'', fun args => ?_⟩
    rw [cluster_apart hshort hp, hr]
    change arguments r' (v :: args) = arguments r'' args
    rw [arguments_plain hv.plain, hplain]
    rfl
  | @more us cs args _ ih =>
    obtain ⟨r', hr, hr'⟩ := turnOn_verbose h (new_of_nodup once)
    have once' : ((ws ++ [Wish.verbose] ++ us).map Wish.name).Nodup := by
      simpa using once
    obtain ⟨r'', hr'', hread⟩ := ih hr' once'
    refine ⟨r'', by simpa using hr'', fun args' => ?_⟩
    have hcluster : cluster ('v' :: cs) r = cluster cs r' := by
      simp only [cluster, Name.ofShort?, hr, bind, Except.bind]
    rw [hcluster]
    exact hread args'

theorem Cluster.head {us : List Wish} {cs : List Char} {more : List String}
    (hc : Cluster us cs more) : ∃ c r, cs = c :: r ∧ c ≠ '-' := by
  have hshort : ∀ {n : Name} {c : Char}, n.short? = some c → c ≠ '-' := by
    rintro n c h rfl
    have hname := Name.ofShort?_short h
    cases hname
  cases hc with
  | switch => exact ⟨_, _, rfl, by decide⟩
  | attached h _ => exact ⟨_, _, rfl, hshort h⟩
  | equals h _ => exact ⟨_, _, rfl, hshort h⟩
  | apart h _ => exact ⟨_, _, rfl, hshort h⟩
  | more _ => exact ⟨_, _, rfl, by decide⟩

theorem Spelled.read {us ws : List Wish} {args : List String} {r : Reading} (hs : Spelled us args)
    (h : r.Holds ws) (once : ((ws ++ us).map Wish.name).Nodup) :
    ∃ r', arguments r args = .ok r' ∧ r'.Holds (ws ++ us) := by
  induction hs generalizing r ws with
  | nil => exact ⟨r, rfl, by simpa using h⟩
  | @long w v us args hv _ ih =>
    obtain ⟨p, hp⟩ := hv.parameter
    obtain ⟨r', r'', hr, hplain, hr''⟩ := await_plain_of_value h hv hp (new_of_nodup once)
    have once' : ((ws ++ [w] ++ us).map Wish.name).Nodup := by simpa using once
    obtain ⟨r₁, hread, hr₁⟩ := ih hr'' once'
    refine ⟨r₁, ?_, by simpa using hr₁⟩
    have htext : ("--" ++ w.name.long).toList = '-' :: '-' :: w.name.long.toList :=
      String.toList_append
    rw [arguments_long htext w.name.long_chars.1, long_of_name, hp]
    dsimp only
    rw [hr]
    change arguments r' (v :: args) = .ok r₁
    rw [arguments_plain hv.plain, hplain]
    exact hread
  | @longEquals w v us args hv _ ih =>
    obtain ⟨p, hp⟩ := hv.parameter
    obtain ⟨r', hr, hr'⟩ := give_of_value h hv hp (new_of_nodup once)
    have once' : ((ws ++ [w] ++ us).map Wish.name).Nodup := by simpa using once
    obtain ⟨r₁, hread, hr₁⟩ := ih hr' once'
    refine ⟨r₁, ?_, by simpa using hr₁⟩
    have htext : ("--" ++ w.name.long ++ "=" ++ v).toList =
        '-' :: '-' :: (w.name.long.toList ++ '=' :: v.toList) := by
      simp only [String.toList_append, List.append_assoc]
      rfl
    rw [arguments_long htext (by simp), hp, long_of_equals, hr]
    exact hread
  | @longSwitch us args _ ih =>
    obtain ⟨r', hr, hr'⟩ := turnOn_verbose h (new_of_nodup once)
    have once' : ((ws ++ [Wish.verbose] ++ us).map Wish.name).Nodup := by simpa using once
    obtain ⟨r₁, hread, hr₁⟩ := ih hr' once'
    refine ⟨r₁, ?_, by simpa using hr₁⟩
    have htext : "--verbose".toList = '-' :: '-' :: "verbose".toList := rfl
    have hlong : r.long "verbose".toList = .ok r' := (long_of_name r (.switch .verbose)).trans hr
    rw [arguments_long htext (by decide), hlong]
    exact hread
  | @short us us' cs more args hc _ ih =>
    have hfront : ((ws ++ us).map Wish.name).Nodup := by
      rw [← List.append_assoc, List.map_append] at once
      exact (List.nodup_append.1 once).1
    obtain ⟨r', hr', hread⟩ := hc.read h hfront
    have once' : ((ws ++ us ++ us').map Wish.name).Nodup := by simpa using once
    obtain ⟨r₁, hrest, hr₁⟩ := ih hr' once'
    obtain ⟨c, cs, rfl, hdash⟩ := hc.head
    refine ⟨r₁, ?_, by simpa using hr₁⟩
    rw [arguments_short hdash, hread, hrest]

end TorusAutomaton.CommandLine
