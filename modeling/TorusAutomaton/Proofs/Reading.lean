import TorusAutomaton.Settings
import TorusAutomaton.Proofs.Lines
import Mathlib.Data.List.Nodup
import Mathlib.Tactic.Choose

/-! Settings part by part. A source asks for the content of some parts and leaves the others as they
are; of two sources the first one is followed where it asks for anything. -/
namespace TorusAutomaton

inductive Part where
  | rows
  | cols
  | generations
  | pattern
  | rule
  deriving DecidableEq, Repr

namespace Part

def Content : Part → Type
  | .rows | .cols | .generations => Nat
  | .pattern => String
  | .rule => NamedRule

def key : Part → String
  | .rows => "rows"
  | .cols => "cols"
  | .generations => "generations"
  | .pattern => "pattern"
  | .rule => "rule"

theorem key_injective : Function.Injective key := by
  intro p p' h
  cases p <;> cases p' <;> first | rfl | exact absurd h (by decide)

end Part

structure Setting where
  part : Part
  content : part.Content

theorem Setting.not_mem_of_part {ws : List Setting} {p : Part} (h : p ∉ ws.map Setting.part)
    (x : p.Content) : ⟨p, x⟩ ∉ ws := fun hx => h (List.mem_map.2 ⟨_, hx, rfl⟩)

namespace Settings

def get (s : Settings) : (p : Part) → p.Content
  | .rows => s.rows
  | .cols => s.cols
  | .generations => s.generations
  | .pattern => s.seedName
  | .rule => s.rule

def set (s : Settings) : Setting → Settings
  | ⟨.rows, n⟩ => { s with rows := n }
  | ⟨.cols, n⟩ => { s with cols := n }
  | ⟨.generations, n⟩ => { s with generations := n }
  | ⟨.pattern, name⟩ => { s with seedName := name }
  | ⟨.rule, r⟩ => { s with rule := r }

theorem get_set_self (s : Settings) (w : Setting) : (s.set w).get w.part = w.content := by
  obtain ⟨p, x⟩ := w
  cases p <;> rfl

theorem get_set_of_ne (s : Settings) {w : Setting} {p : Part} (h : p ≠ w.part) :
    (s.set w).get p = s.get p := by
  obtain ⟨p', x⟩ := w
  cases p' <;> cases p <;> first | rfl | exact absurd rfl h

theorem ext_get {s t : Settings} (h : ∀ p, s.get p = t.get p) : s = t := by
  obtain ⟨rows, cols, generations, seedName, rule⟩ := s
  obtain rfl : rows = t.rows := h .rows
  obtain rfl : cols = t.cols := h .cols
  obtain rfl : generations = t.generations := h .generations
  obtain rfl : seedName = t.seedName := h .pattern
  obtain rfl : rule = t.rule := h .rule
  rfl

end Settings

/-- What a source asks for. -/
abbrev Request := Setting → Prop

namespace Request

variable {q q' : Request} {a b c : Settings}

/-- Each part by itself is as asked for, or as it was if nothing is asked of it. -/
def Over (q : Request) (before after : Settings) : Prop :=
  ∀ p, q ⟨p, after.get p⟩ ∨ (∀ x, ¬ q ⟨p, x⟩) ∧ after.get p = before.get p

/-- No two contents are asked of one part. -/
def Single (q : Request) : Prop := ∀ p x y, q ⟨p, x⟩ → q ⟨p, y⟩ → x = y

/-- The second source is heard on the parts of which the first asks nothing. -/
def orElse (q q' : Request) : Request := fun w => q w ∨ (∀ x, ¬ q ⟨w.part, x⟩) ∧ q' w

theorem over_nothing (s : Settings) : Over (fun _ => False) s s := fun _ =>
  .inr ⟨fun _ => id, rfl⟩

theorem over_set (s : Settings) (w : Setting) : Over (· = w) s (s.set w) := by
  intro p
  by_cases hp : p = w.part
  · subst hp
    left
    rw [s.get_set_self w]
  · right
    refine ⟨?_, s.get_set_of_ne hp⟩
    rintro x rfl
    exact hp rfl

theorem Over.orElse (h' : q'.Over a b) (h : q.Over b c) : (q.orElse q').Over a c := by
  intro p
  rcases h p with hq | ⟨hq, hbc⟩
  · exact .inl (.inl hq)
  · rcases h' p with hq' | ⟨hq', hab⟩
    · left
      rw [hbc]
      exact .inr ⟨hq, hq'⟩
    · right
      refine ⟨?_, hbc.trans hab⟩
      rintro x (hx | ⟨-, hx⟩)
      · exact hq x hx
      · exact hq' x hx

theorem exists_over (q : Request) (a : Settings) : ∃ b, q.Over a b := by
  have hparts : ∀ p : Part, ∃ x : p.Content, q ⟨p, x⟩ ∨ (∀ y, ¬ q ⟨p, y⟩) ∧ x = a.get p := by
    intro p
    by_cases h : ∃ x, q ⟨p, x⟩
    · obtain ⟨x, hx⟩ := h
      exact ⟨x, .inl hx⟩
    · exact ⟨a.get p, .inr ⟨fun y hy => h ⟨y, hy⟩, rfl⟩⟩
  choose f hf using hparts
  refine ⟨⟨f .rows, f .cols, f .generations, f .pattern, f .rule⟩, ?_⟩
  intro p
  cases p <;> exact hf _

theorem Over.unique (hq : q.Single) (hb : q.Over a b) (hc : q.Over a c) : b = c := by
  apply Settings.ext_get
  intro p
  rcases hb p with hb | ⟨hnone, hb⟩
  · rcases hc p with hc | ⟨hnone, -⟩
    · exact hq p _ _ hb hc
    · exact absurd hb (hnone _)
  · rcases hc p with hc | ⟨-, hc⟩
    · exact absurd hc (hnone _)
    · exact hb.trans hc.symm

theorem Single.over_iff (hq : q.Single) (h : q.Over a b) : q.Over a c ↔ c = b := by
  constructor
  · intro hc
    exact hc.unique hq h
  · rintro rfl
    exact h

theorem Single.orElse (hq : q.Single) (hq' : q'.Single) : (q.orElse q').Single := by
  rintro p x y (hx | ⟨hnone, hx⟩) hy
  · rcases hy with hy | ⟨hnone, -⟩
    · exact hq p x y hx hy
    · exact absurd hx (hnone x)
  · rcases hy with hy | ⟨-, hy⟩
    · exact absurd hy (hnone y)
    · exact hq' p x y hx hy

theorem single_mem {ws : List Setting} (once : (ws.map Setting.part).Nodup) :
    Single (· ∈ ws) := by
  intro p x y hx hy
  have h := List.inj_on_of_nodup_map once hx hy rfl
  cases h
  rfl

end Request

/-! Settings read from a text. The table of the text asks for the parts that it has entries of, and
one entry that is of no part, or whose value does not fit, spoils the whole. -/

open Toml (Value Entries)

namespace Settings

/-- Values that name a rule. -/
inductive Names (r : NamedRule) : Value → Prop where
  | plain : Names r (.string r.name)
  | table (origin : Toml.Origin) {v : Value} : holdsNothing v = true →
      Names r (.table origin [(r.name, v)])

/-- Values that are read as the content of a part. -/
inductive Reads : Value → Setting → Prop where
  | rows {n : Nat} : n < 0x10000000000000000 → Reads (.integer n) ⟨.rows, n⟩
  | cols {n : Nat} : n < 0x10000000000000000 → Reads (.integer n) ⟨.cols, n⟩
  | generations {n : Nat} : n < 0x100000000 → Reads (.integer n) ⟨.generations, n⟩
  | pattern (s : String) : Reads (.string s) ⟨.pattern, s⟩
  | rule {v : Value} {r : NamedRule} : Names r v → Reads v ⟨.rule, r⟩

theorem ruleNamed_eq_ok_iff {name : String} {r : NamedRule} :
    ruleNamed name = .ok r ↔ name = r.name := by
  rw [ruleNamed, ← NamedRule.ofName?_eq_some_iff]
  cases NamedRule.ofName? name <;> simp

theorem readRule_eq_ok_iff {v : Value} {r : NamedRule} : readRule v = .ok r ↔ Names r v := by
  constructor
  · intro h
    rw [readRule.eq_def] at h
    split at h
    · next name =>
      obtain rfl := ruleNamed_eq_ok_iff.1 h
      exact .plain
    · next origin name x =>
      cases hname : ruleNamed name with
      | error e =>
        rw [hname] at h
        cases h
      | ok r' =>
        rw [hname] at h
        obtain rfl := ruleNamed_eq_ok_iff.1 hname
        by_cases hx : holdsNothing x = true
        · simp only [bind, Except.bind, if_pos hx] at h
          cases h
          exact .table origin hx
        · simp only [bind, Except.bind, if_neg hx] at h
          cases h
    · cases h
  · intro h
    cases h with
    | plain => exact ruleNamed_eq_ok_iff.2 rfl
    | table origin hx =>
      rw [readRule, ruleNamed_eq_ok_iff.2 rfl]
      simp only [bind, Except.bind, if_pos hx]
      rfl

theorem readNat_eq_ok_iff {wanted : Wanted} {v : Value} {n : Nat} :
    readNat wanted v = .ok n ↔ v = .integer n ∧ n < wanted.limit := by
  constructor
  · intro h
    rw [readNat.eq_def] at h
    split at h
    · next m =>
      by_cases hm : 0 ≤ m ∧ m < wanted.limit
      · rw [if_pos hm] at h
        cases h
        have hcast : (m.toNat : Int) = m := Int.toNat_of_nonneg hm.1
        exact ⟨by rw [hcast], by omega⟩
      · rw [if_neg hm] at h
        cases h
    · cases h
  · rintro ⟨rfl, hn⟩
    have hfits : 0 ≤ (n : Int) ∧ (n : Int) < wanted.limit := by omega
    rw [readNat, if_pos hfits, Int.toNat_natCast]

theorem readText_eq_ok_iff {v : Value} {s : String} : readText v = .ok s ↔ v = .string s := by
  constructor
  · intro h
    rw [readText.eq_def] at h
    split at h
    · cases h
      rfl
    · cases h
  · rintro rfl
    rfl

def readContent : (p : Part) → Value → Except Problem p.Content
  | .rows, v | .cols, v => readNat .size v
  | .generations, v => readNat .counter v
  | .pattern, v => readText v
  | .rule, v => readRule v

theorem readContent_eq_ok_iff {p : Part} {v : Value} {x : p.Content} :
    readContent p v = .ok x ↔ Reads v ⟨p, x⟩ := by
  cases p with
  | rows =>
    refine readNat_eq_ok_iff.trans ⟨?_, ?_⟩
    · rintro ⟨rfl, hn⟩
      exact .rows hn
    · intro h
      cases h with
      | rows hn => exact ⟨rfl, hn⟩
  | cols =>
    refine readNat_eq_ok_iff.trans ⟨?_, ?_⟩
    · rintro ⟨rfl, hn⟩
      exact .cols hn
    · intro h
      cases h with
      | cols hn => exact ⟨rfl, hn⟩
  | generations =>
    refine readNat_eq_ok_iff.trans ⟨?_, ?_⟩
    · rintro ⟨rfl, hn⟩
      exact .generations hn
    · intro h
      cases h with
      | generations hn => exact ⟨rfl, hn⟩
  | pattern =>
    refine readText_eq_ok_iff.trans ⟨?_, ?_⟩
    · rintro rfl
      exact .pattern x
    · intro h
      cases h
      rfl
  | rule =>
    refine readRule_eq_ok_iff.trans ⟨.rule, ?_⟩
    intro h
    cases h with
    | rule hr => exact hr

theorem Reads.unique {v : Value} {p : Part} {x y : p.Content} (hx : Reads v ⟨p, x⟩)
    (hy : Reads v ⟨p, y⟩) : x = y := by
  have h := (readContent_eq_ok_iff.2 hx).symm.trans (readContent_eq_ok_iff.2 hy)
  exact Except.ok.inj h

theorem readEntry_key (s : Settings) (p : Part) (v : Value) :
    readEntry s (p.key, v) = (readContent p v).map fun x => s.set ⟨p, x⟩ := by
  cases p <;> rfl

theorem readEntry_foreign (s : Settings) {key : String} (hkey : ∀ p : Part, key ≠ p.key)
    (v : Value) :
    readEntry s (key, v) = .error (.unknownKey key) := by
  rw [readEntry.eq_def]
  split
  · next h => exact absurd h (hkey .rows)
  · next h => exact absurd h (hkey .cols)
  · next h => exact absurd h (hkey .generations)
  · next h => exact absurd h (hkey .pattern)
  · next h => exact absurd h (hkey .rule)
  · rfl

def Usable (e : String × Value) : Prop := ∃ w : Setting, e.1 = w.part.key ∧ Reads e.2 w

def entered (es : Entries) : Request := fun w => ∃ v, (w.part.key, v) ∈ es ∧ Reads v w

theorem readEntry_eq_ok_iff {s t : Settings} {e : String × Value} :
    readEntry s e = .ok t ↔ ∃ w : Setting, e.1 = w.part.key ∧ Reads e.2 w ∧ t = s.set w := by
  obtain ⟨key, v⟩ := e
  by_cases hkey : ∃ p : Part, key = p.key
  · obtain ⟨p, rfl⟩ := hkey
    rw [readEntry_key]
    constructor
    · intro h
      cases hx : readContent p v with
      | error e =>
        rw [hx] at h
        cases h
      | ok x =>
        rw [hx] at h
        cases h
        exact ⟨⟨p, x⟩, rfl, readContent_eq_ok_iff.1 hx, rfl⟩
    · rintro ⟨⟨p', x⟩, hp, hx, rfl⟩
      obtain rfl := Part.key_injective hp
      rw [readContent_eq_ok_iff.2 hx]
      rfl
  · have hforeign : ∀ p : Part, key ≠ p.key := fun p hp => hkey ⟨p, hp⟩
    rw [readEntry_foreign s hforeign]
    constructor
    · intro h
      cases h
    · rintro ⟨w, hw, -⟩
      exact absurd hw (hforeign w.part)

theorem Usable.readEntry {e : String × Value} (he : Usable e) (s : Settings) :
    ∃ t, readEntry s e = .ok t := by
  obtain ⟨w, hkey, hw⟩ := he
  exact ⟨s.set w, readEntry_eq_ok_iff.2 ⟨w, hkey, hw, rfl⟩⟩

theorem entered_cons {key : String} {v : Value} {w : Setting} {es : Entries}
    (hkey : key = w.part.key) (hw : Reads v w) (hnew : key ∉ es.map Prod.fst) :
    entered ((key, v) :: es) = (entered es).orElse (· = w) := by
  subst hkey
  funext w'
  apply propext
  constructor
  · rintro ⟨v', hmem, hread⟩
    rcases List.mem_cons.1 hmem with heq | hmem
    · obtain ⟨hpart, rfl⟩ := Prod.mk.inj heq
      obtain ⟨p, x⟩ := w
      obtain ⟨p', x'⟩ := w'
      obtain rfl := Part.key_injective hpart
      right
      refine ⟨?_, by rw [hread.unique hw]⟩
      rintro y ⟨u, hu, -⟩
      exact hnew (List.mem_map.2 ⟨_, hu, rfl⟩)
    · exact .inl ⟨v', hmem, hread⟩
  · rintro (⟨v', hmem, hread⟩ | ⟨-, rfl⟩)
    · exact ⟨v', List.mem_cons_of_mem _ hmem, hread⟩
    · exact ⟨v, List.mem_cons_self, hw⟩

theorem single_entered {es : Entries} (once : (es.map Prod.fst).Nodup) : (entered es).Single := by
  rintro p x y ⟨v, hv, hx⟩ ⟨u, hu, hy⟩
  have h := List.inj_on_of_nodup_map once hv hu rfl
  obtain rfl := (Prod.mk.inj h).2
  exact hx.unique hy

theorem foldlM_readEntry {es : Entries} {s t : Settings} (once : (es.map Prod.fst).Nodup)
    (h : es.foldlM readEntry s = .ok t) : (∀ e ∈ es, Usable e) ∧ (entered es).Over s t := by
  induction es generalizing s with
  | nil =>
    cases h
    refine ⟨by simp, fun p => .inr ⟨?_, rfl⟩⟩
    rintro x ⟨v, hv, -⟩
    cases hv
  | cons e es ih =>
    obtain ⟨hnew, hes⟩ := List.nodup_cons.1 once
    rw [List.foldlM_cons] at h
    cases hm : readEntry s e with
    | error p =>
      rw [hm] at h
      cases h
    | ok m =>
      rw [hm] at h
      obtain ⟨w, hkey, hw, rfl⟩ := readEntry_eq_ok_iff.1 hm
      obtain ⟨husable, hover⟩ := ih hes h
      constructor
      · rintro x (_ | ⟨_, hx⟩)
        · exact ⟨w, hkey, hw⟩
        · exact husable x hx
      · have hcons : entered (e :: es) = (entered es).orElse (· = w) := entered_cons hkey hw hnew
        rw [hcons]
        exact (Request.over_set s w).orElse hover

theorem foldlM_readEntry_of_usable {es : Entries} (hes : ∀ e ∈ es, Usable e) (s : Settings) :
    ∃ t, es.foldlM readEntry s = .ok t := by
  induction es generalizing s with
  | nil => exact ⟨s, rfl⟩
  | cons e es ih =>
    obtain ⟨m, hm⟩ := (hes e (by simp)).readEntry s
    obtain ⟨t, ht⟩ := ih (fun x hx => hes x (List.mem_cons_of_mem _ hx)) m
    exact ⟨t, by simp only [List.foldlM_cons, hm, bind, Except.bind, ht]⟩

theorem ofEntries_eq_ok_iff {es : Entries} {s : Settings} (once : (es.map Prod.fst).Nodup) :
    ofEntries es = .ok s ↔ (∀ e ∈ es, Usable e) ∧ (entered es).Over default s := by
  constructor
  · intro h
    exact foldlM_readEntry once h
  · rintro ⟨husable, hover⟩
    obtain ⟨t, ht⟩ := foldlM_readEntry_of_usable husable default
    have hunique := hover.unique (single_entered once) (foldlM_readEntry once ht).2
    rw [hunique]
    exact ht

theorem parse_eq_ok_iff {cs : List Char} {s : Settings} :
    parse cs = .ok s ↔
      ∃ es, Toml.parse? cs = some es ∧ (∀ e ∈ es, Usable e) ∧ (entered es).Over default s := by
  rw [parse]
  cases hparse : Toml.parse? cs with
  | none => simp
  | some es =>
    rw [ofEntries_eq_ok_iff (Toml.nodup_keys_of_parse? hparse)]
    simp

theorem ofText_eq_ok_iff {text : String} {s : Settings} :
    ofText text = .ok s ↔ parse text.toList = .ok s := by
  rw [ofText]
  cases parse text.toList <;> simp

theorem ofBytes_eq_ok_iff {contents : Except ReadFailure ByteArray} {s : Settings} :
    ofBytes contents = .ok s ↔
      ∃ bytes text, contents = .ok bytes ∧ String.fromUTF8? bytes = some text ∧
        ofText text = .ok s := by
  rw [ofBytes.eq_def]
  cases contents with
  | error cause => simp
  | ok bytes => cases htext : String.fromUTF8? bytes <;> simp [htext]

end Settings

end TorusAutomaton
