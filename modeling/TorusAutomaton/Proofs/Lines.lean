import TorusAutomaton.Proofs.Literals
import TorusAutomaton.Toml
import Mathlib.Data.List.Nodup
import Mathlib.Data.Option.Basic

/-! The table that a TOML text describes, while it grows. Its own entries are
only added to: an entry stands under a key that was free, and a value that is
complete is never changed again. What such additions keep, the whole text
keeps; so keys stand once, and no later statement takes a value away. -/
namespace TorusAutomaton.Toml

/-- Whether something can still be added to a value. -/
def Value.Grows : Value → Prop
  | .table origin _ => origin ≠ .inline
  | .tables _ => True
  | _ => False

theorem scalarValue?_not_grows {cs r : List Char} {v : Value}
    (h : scalarValue? cs = some (v, r)) : ¬ v.Grows := by
  rw [scalarValue?.eq_def] at h
  split at h
  · cases h
    exact id
  · cases h
    exact id
  · split at h
    · obtain ⟨_, -, heq⟩ := Option.map_eq_some_iff.1 h
      cases heq
      exact id
    · split at h
      · rcases numeral?_cases h with rfl | ⟨x, rfl⟩ | ⟨n, rfl⟩ <;> exact id
      · obtain ⟨_, -, heq⟩ := Option.map_eq_some_iff.1 h
        cases heq
        exact id
  · cases h

theorem readValue?_not_grows {cs r : List Char} {v : Value} (h : readValue? cs = some (v, r)) :
    ¬ v.Grows := by
  rw [readValue?, value?.eq_def] at h
  split at h
  · cases h
  · split at h
    · cases h
    · obtain ⟨_, -, heq⟩ := Option.map_eq_some_iff.1 h
      cases heq
      exact id
  · split at h
    · cases h
    · split at h
      all_goals
        simp only [bind, Option.bind_eq_some_iff, pure, Option.some.injEq, Prod.mk.injEq] at h
        obtain ⟨_, -, es, -, rfl, -⟩ := h
        exact fun hgrows => hgrows rfl
  · exact scalarValue?_not_grows h

namespace Entries

theorem keys_replace (es : Entries) (key : String) (v : Value) :
    (es.replace key v).map Prod.fst = es.map Prod.fst := by
  rw [replace, List.map_map]
  apply List.map_congr_left
  rintro ⟨k, w⟩ -
  dsimp only [Function.comp]
  split
  · next h => exact h.symm
  · rfl

theorem lookup_eq_none_iff_not_mem_keys {es : Entries} {key : String} :
    es.lookup key = none ↔ key ∉ es.map Prod.fst := by
  rw [List.lookup_eq_none_iff, List.mem_map]
  constructor
  · rintro h ⟨e, he, rfl⟩
    simpa using h e he
  · intro h e he
    simp only [bne_iff_ne, ne_eq]
    rintro rfl
    exact h ⟨e, he, rfl⟩

theorem lookup_replace_of_ne {es : Entries} {key k : String} (h : k ≠ key) (v : Value) :
    (es.replace key v).lookup k = es.lookup k := by
  induction es with
  | nil => rfl
  | cons e es ih =>
    obtain ⟨k', w⟩ := e
    rw [replace, List.map_cons]
    change List.lookup k ((if k' = key then (key, v) else (k', w)) :: replace es key v) = _
    by_cases hk : k' = key
    · have hbeq : (k == key) = false := beq_eq_false_iff_ne.2 h
      rw [if_pos hk, List.lookup_cons, List.lookup_cons, ih, hk, hbeq]
    · rw [if_neg hk, List.lookup_cons, List.lookup_cons, ih]

theorem lookup_filter_of_ne {es : Entries} {key k : String} (h : k ≠ key) :
    (es.filter fun e => decide (e.1 ≠ key)).lookup k = es.lookup k := by
  induction es with
  | nil => rfl
  | cons e es ih =>
    obtain ⟨k', w⟩ := e
    by_cases hk : k' = key
    · have hbeq : (k == key) = false := beq_eq_false_iff_ne.2 h
      rw [List.filter_cons_of_neg (by simpa using hk), ih, List.lookup_cons, hk, hbeq]
    · rw [List.filter_cons_of_pos (by simpa using hk), List.lookup_cons, List.lookup_cons, ih]

/-- Properties of a table that every way to add to it keeps: an entry under a free key, another
value for one that grows, and a table that was only a parent taken out again. -/
structure Stable (P : Entries → Prop) : Prop where
  append : ∀ {es key v}, P es → es.lookup key = none → P (es ++ [(key, v)])
  replace : ∀ {es key old new}, P es → es.lookup key = some old → old.Grows → P (es.replace key new)
  remove : ∀ {es key sub}, P es → es.lookup key = some (.table .parent sub) →
    P (es.filter fun e => decide (e.1 ≠ key))

theorem stable_nodup_keys : Stable fun es => (es.map Prod.fst).Nodup where
  append := by
    intro es key v hes hkey
    rw [List.map_append, List.map_cons, List.map_nil, List.nodup_append_comm, List.singleton_append,
      List.nodup_cons]
    exact ⟨lookup_eq_none_iff_not_mem_keys.1 hkey, hes⟩
  replace := by
    intro es key old new hes _ _
    rwa [keys_replace]
  remove := by
    intro es key sub hes _
    exact hes.sublist (List.filter_sublist.map _)

theorem stable_lookup {k : String} {w : Value} (hw : ¬ w.Grows) :
    Stable fun es => es.lookup k = some w where
  append := by
    intro es key v hes _
    rw [List.lookup_append, hes]
    rfl
  replace := by
    intro es key old new hes hold hgrows
    have hne : k ≠ key := by
      rintro rfl
      rw [hes] at hold
      cases hold
      exact hw hgrows
    rwa [lookup_replace_of_ne hne]
  remove := by
    intro es key sub hes hold
    have hne : k ≠ key := by
      rintro rfl
      rw [hes] at hold
      cases hold
      exact hw (by simp [Value.Grows])
    rwa [lookup_filter_of_ne hne]

theorem Stable.descend {α : Type} {P : Entries → Prop} (hP : Stable P) {byKey : Bool}
    {f : Origin → Entries → Option (Entries × α)} {origin : Origin} {path : List String}
    {es es' : Entries} {a : α}
    (hf : ∀ {es es' a}, P es → f origin es = some (es', a) → P es') (hes : P es)
    (h : descend byKey f origin path es = some (es', a)) : P es' := by
  cases path with
  | nil => exact hf hes h
  | cons key path =>
    rw [Entries.descend] at h
    split at h
    · next hkey =>
      simp only [bind, Option.bind_eq_some_iff, pure, Option.some.injEq, Prod.mk.injEq] at h
      obtain ⟨_, -, rfl, -⟩ := h
      exact hP.append hes hkey
    · next hkey =>
      simp only [bind, Option.bind_eq_some_iff, pure, Option.some.injEq, Prod.mk.injEq,
        Option.guard_eq_some'] at h
      obtain ⟨-, ⟨hne, -⟩, _, -, rfl, -⟩ := h
      exact hP.replace hes hkey hne
    · next hkey =>
      simp only [bind, Option.bind_eq_some_iff, pure, Option.some.injEq, Prod.mk.injEq] at h
      obtain ⟨_, -, _, -, rfl, -⟩ := h
      exact hP.replace hes hkey trivial
    · cases h

end Entries

namespace Draft

open Entries (Stable)

/-- The entries that the text has so far without a header: those of the open
table if there was none. -/
def top (d : Draft) : Entries :=
  match d.place with
  | .top => d.body
  | .table _ _ | .member _ _ => d.root

variable {P : Entries → Prop}

theorem close_stable (hP : Stable P) {d : Draft} {es : Entries} (hd : P d.top)
    (h : d.close = some es) : P es := by
  obtain ⟨root, place, body⟩ := d
  cases place with
  | top =>
    cases h
    exact hd
  | table path key =>
    obtain ⟨⟨es', u⟩, hdescend, rfl⟩ := Option.map_eq_some_iff.1 h
    refine hP.descend (fun hes hf => ?_) hd hdescend
    simp only [bind, Option.bind_eq_some_iff, pure, Option.some.injEq, Prod.mk.injEq,
      Option.guard_eq_some', Option.isNone_iff_eq_none] at hf
    obtain ⟨-, hkey, rfl, -⟩ := hf
    exact hP.append hes hkey
  | member path key =>
    obtain ⟨⟨es', u⟩, hdescend, rfl⟩ := Option.map_eq_some_iff.1 h
    refine hP.descend (fun hes hf => ?_) hd hdescend
    split at hf
    · next hkey =>
      cases hf
      exact hP.replace hes hkey trivial
    · cases hf

theorem openTable_stable (hP : Stable P) {path : List String} {key : String} {root : Entries}
    {d : Draft} (hroot : P root) (h : openTable path key root = some d) : P d.top := by
  simp only [openTable, bind, Option.bind_eq_some_iff, pure, Option.some.injEq] at h
  obtain ⟨⟨es, body⟩, hdescend, rfl⟩ := h
  refine hP.descend (fun hes hf => ?_) hroot hdescend
  split at hf
  · cases hf
    exact hes
  · next hkey =>
    cases hf
    exact hP.remove hes hkey
  · cases hf

theorem openMember_stable (hP : Stable P) {path : List String} {key : String} {root : Entries}
    {d : Draft} (hroot : P root) (h : openMember path key root = some d) : P d.top := by
  simp only [openMember, bind, Option.bind_eq_some_iff, pure, Option.some.injEq] at h
  obtain ⟨⟨es, u⟩, hdescend, rfl⟩ := h
  refine hP.descend (fun hes hf => ?_) hroot hdescend
  split at hf
  · next hkey =>
    cases hf
    exact hP.append hes hkey
  · cases hf
    exact hes
  · cases hf

theorem insert_stable (hP : Stable P) {path : List String} {key : String} {v : Value}
    {es es' : Entries} (hes : P es) (h : es.insert path key v = some es') : P es' := by
  obtain ⟨⟨es'', u⟩, hdescend, rfl⟩ := Option.map_eq_some_iff.1 h
  refine hP.descend (fun hes hf => ?_) hes hdescend
  simp only [Entries.insertLast, bind, Option.bind_eq_some_iff, pure, Option.some.injEq,
    Prod.mk.injEq, Option.guard_eq_some', Option.isNone_iff_eq_none] at hf
  obtain ⟨-, -, -, hkey, rfl, -⟩ := hf
  exact hP.append hes hkey

theorem add_stable (hP : Stable P) {d d' : Draft} {s : Statement} (hd : P d.top)
    (h : d.add s = some d') : P d'.top := by
  cases s with
  | entry p =>
    simp only [add, bind, Option.bind_eq_some_iff, pure, Option.some.injEq] at h
    obtain ⟨body, hinsert, rfl⟩ := h
    obtain ⟨root, place, body'⟩ := d
    cases place with
    | top => exact insert_stable hP hd hinsert
    | table => exact hd
    | member => exact hd
  | header path key =>
    simp only [add, bind, Option.bind_eq_some_iff] at h
    obtain ⟨root, hclose, hopen⟩ := h
    exact openTable_stable hP (close_stable hP hd hclose) hopen
  | member path key =>
    simp only [add, bind, Option.bind_eq_some_iff] at h
    obtain ⟨root, hclose, hopen⟩ := h
    exact openMember_stable hP (close_stable hP hd hclose) hopen

theorem foldlM_add_stable (hP : Stable P) {ss : List Statement} {d d' : Draft} (hd : P d.top)
    (h : ss.foldlM add d = some d') : P d'.top := by
  induction ss generalizing d with
  | nil =>
    cases h
    exact hd
  | cons s ss ih =>
    simp only [List.foldlM_cons, bind, Option.bind_eq_some_iff] at h
    obtain ⟨e, hs, hss⟩ := h
    exact ih (add_stable hP hd hs) hss

end Draft

theorem nodup_keys_of_parse? {cs : List Char} {es : Entries} (h : parse? cs = some es) :
    (es.map Prod.fst).Nodup := by
  simp only [parse?, Entries.ofStatements, bind, Option.bind_eq_some_iff] at h
  obtain ⟨ss, -, d, hfold, hclose⟩ := h
  have hstable := Entries.stable_nodup_keys
  have hempty : (Draft.empty.top.map Prod.fst).Nodup := List.nodup_nil
  exact Draft.close_stable hstable (Draft.foldlM_add_stable hstable hempty hfold) hclose

/-! TOML texts that are lists of lines, each a bare key with an integer or
with quoted text. Such lines are read one by one, whatever follows them, and
they are the entries of the document in their order. -/

/-- A value that is written on one line: an integer in decimal digits, or text without escapes. -/
inductive Literal where
  | integer (n : Int)
  | string (s : String)
  deriving DecidableEq, Repr

namespace Literal

def text : Literal → List Char
  | .integer n => (toString n).toList
  | .string s => '"' :: (s.toList ++ ['"'])

def value : Literal → Value
  | .integer n => .integer n
  | .string s => .string s

def Written : Literal → Prop
  | .integer n => IsWord n
  | .string s => ∀ c ∈ s.toList, Unescaped c

end Literal

/-- A key and what stands behind its equals sign, up to the end of the text or not. -/
def assignment (key : String) (rest : List Char) : List Char :=
  key.toList ++ ' ' :: '=' :: ' ' :: rest

structure Line where
  key : String
  literal : Literal
  deriving DecidableEq, Repr

def Line.text (l : Line) : List Char := assignment l.key l.literal.text

def Line.entry (l : Line) : String × Value := (l.key, l.literal.value)

theorem Line.text_append (l : Line) (rest : List Char) :
    l.text ++ rest = assignment l.key (l.literal.text ++ rest) := by
  simp only [text, assignment, List.append_assoc, List.cons_append]

/-- Lines in their order, each with an end of either kind, and some text after them. -/
inductive Leads (rest : List Char) : List Line → List Char → Prop where
  | nil : Leads rest [] rest
  | cons {ls : List Line} {cs : List Char} (l : Line) (e : LineEnd) : Leads rest ls cs →
      Leads rest (l :: ls) (l.text ++ (e.text ++ cs))

/-- Lines in their order and nothing else. The last may lack its end. -/
def Document (ls : List Line) (cs : List Char) : Prop :=
  Leads [] ls cs ∨ ∃ before last, ls = before ++ [last] ∧ Leads last.text before cs

def BareKey (key : String) : Prop := key.toList ≠ [] ∧ ∀ c ∈ key.toList, isBare c = true

theorem ne_of_isBare {c d : Char} (hc : isBare c = true) (hd : isBare d = false) : c ≠ d := by
  rintro rfl
  rw [hc] at hd
  cases hd

theorem isBlank_of_isBare {c : Char} (hc : isBare c = true) : isBlank c = false := by
  simp [isBlank, ne_of_isBare hc (d := ' ') rfl, ne_of_isBare hc (d := '\t') rfl]

theorem simpleKey?_append {cs : List Char} (hne : cs ≠ []) (hcs : ∀ c ∈ cs, isBare c = true)
    (rest : List Char) :
    simpleKey? (cs ++ ' ' :: rest) = some (String.ofList cs, ' ' :: rest) := by
  have htake : (cs ++ ' ' :: rest).takeWhile isBare = cs := by
    rw [List.takeWhile_append_of_pos hcs]
    exact List.append_nil cs
  obtain ⟨c, cs', rfl⟩ := List.exists_cons_of_ne_nil hne
  have hc := hcs c (by simp)
  rw [simpleKey?.eq_def]
  split
  · next h => exact absurd (List.cons.inj h).1 (ne_of_isBare hc rfl)
  · next h => exact absurd (List.cons.inj h).1 (ne_of_isBare hc rfl)
  · dsimp only
    rw [htake, List.drop_left]
    rfl

theorem skipBlanks_cons {c : Char} (hc : isBlank c = false) (cs : List Char) :
    skipBlanks (c :: cs) = c :: cs := by
  rw [skipBlanks, List.dropWhile_cons, if_neg (by simp [hc])]

theorem assignment_eq_cons {key : String} (hkey : BareKey key) (rest : List Char) :
    ∃ c cs, assignment key rest = c :: cs ∧ isBare c = true := by
  obtain ⟨hne, hbare⟩ := hkey
  obtain ⟨c, cs, hcs⟩ := List.exists_cons_of_ne_nil hne
  have hcons : assignment key rest = c :: (cs ++ ' ' :: '=' :: ' ' :: rest) := by
    rw [assignment, hcs, List.cons_append]
  exact ⟨c, _, hcons, hbare c (by simp [hcs])⟩

theorem skipBlanks_assignment {key : String} (hkey : BareKey key) (rest : List Char) :
    skipBlanks (assignment key rest) = assignment key rest := by
  obtain ⟨c, cs, hcons, hc⟩ := assignment_eq_cons hkey rest
  rw [hcons, skipBlanks_cons (isBlank_of_isBare hc)]

theorem key?_assignment {key : String} (hkey : BareKey key) (rest : List Char) :
    key? (assignment key rest) = some (([], key), '=' :: ' ' :: rest) := by
  rw [key?, deepest, path?, skipBlanks_assignment hkey, assignment,
    simpleKey?_append hkey.1 hkey.2]
  simp only [bind, Option.bind, String.ofList_toList]
  rfl

theorem statement?_assignment {key : String} (hkey : BareKey key) (rest : List Char) :
    statement? (assignment key rest) =
      (readValue? (skipBlanks rest)).bind fun x =>
        (endLine? x.2).map fun r => (.entry ⟨[], key, x.1⟩, r) := by
  obtain ⟨c, cs, hcons, hc⟩ := assignment_eq_cons hkey rest
  have hbracket : ∀ r, assignment key rest ≠ '[' :: r := by
    intro r h
    rw [hcons] at h
    exact absurd (List.cons.inj h).1 (ne_of_isBare hc rfl)
  have hskip : skipBlanks (' ' :: rest) = skipBlanks rest := rfl
  rw [statement?.eq_def]
  split
  · next h => exact absurd h (hbracket _)
  · next h => exact absurd h (hbracket _)
  · rw [key?_assignment hkey]
    simp only [bind, Option.bind, expect?, beq_self_eq_true, if_true, hskip]
    cases readValue? (skipBlanks rest) with
    | none => rfl
    | some x => cases h : endLine? x.2 <;> simp [h, pure]

theorem statements?_assignment {key : String} (hkey : BareKey key) (rest : List Char) (fuel : Nat) :
    statements? (fuel + 1) (assignment key rest) =
      (statement? (assignment key rest)).bind fun x => (statements? fuel x.2).map (x.1 :: ·) := by
  obtain ⟨c, cs, hcons, hc⟩ := assignment_eq_cons hkey rest
  have hmark : (c == '#' || c == '\n' || c == '\r') = false := by
    simp [ne_of_isBare hc (d := '#') rfl, ne_of_isBare hc (d := '\n') rfl,
      ne_of_isBare hc (d := '\r') rfl]
  rw [statements?, skipBlanks_assignment hkey, hcons]
  dsimp only
  rw [if_neg (by simp [hmark])]
  cases statement? (c :: cs) with
  | none => rfl
  | some x => cases h : statements? fuel x.2 <;> simp [h, bind, pure]

theorem Literal.text_eq_cons (x : Literal) : ∃ c cs, x.text = c :: cs ∧ isBlank c = false := by
  cases x with
  | integer n =>
    obtain ⟨c, cs, hcs, hc⟩ := toString_eq_cons n
    refine ⟨c, cs, hcs, ?_⟩
    rcases hc with rfl | hc
    · rfl
    · simp [isBlank, ne_of_isDecimal hc (c := ' ') rfl, ne_of_isDecimal hc (c := '\t') rfl]
  | string s => exact ⟨'"', _, rfl, rfl⟩

theorem Literal.skipBlanks_text (x : Literal) (rest : List Char) :
    skipBlanks (x.text ++ rest) = x.text ++ rest := by
  obtain ⟨c, cs, hcs, hc⟩ := x.text_eq_cons
  rw [hcs, List.cons_append, skipBlanks_cons hc]

theorem Literal.of_readValue?_text {x : Literal} {rest r : List Char} {v : Value}
    (hx : ∀ s, x = .string s → x.Written) (hr : Ended rest)
    (h : readValue? (x.text ++ rest) = some (v, r)) : x.Written ∧ v = x.value := by
  cases x with
  | integer n =>
    rw [text, readValue?_integer n hr] at h
    by_cases hn : IsWord n
    · rw [if_pos hn] at h
      cases h
      exact ⟨hn, rfl⟩
    · rw [if_neg hn] at h
      cases h
  | string s =>
    have hs : (string s).Written := hx s rfl
    rw [text, List.cons_append, List.append_assoc, List.singleton_append,
      readValue?_string hs hr] at h
    cases h
    exact ⟨hs, rfl⟩

theorem Literal.readValue?_of_written {x : Literal} (hx : x.Written) {rest : List Char}
    (hr : Ended rest) : readValue? (x.text ++ rest) = some (x.value, rest) := by
  cases x with
  | integer n => rw [text, readValue?_integer n hr, if_pos (show IsWord n from hx), value]
  | string s =>
    rw [text, List.cons_append, List.append_assoc, List.singleton_append, readValue?_string hx hr,
      value]

theorem endLine?_text (e : LineEnd) (rest : List Char) : endLine? (e.text ++ rest) = some rest := by
  cases e <;> rfl

theorem ended_text (e : LineEnd) (rest : List Char) : Ended (e.text ++ rest) := .inr ⟨e, rest, rfl⟩

def Line.Written (l : Line) : Prop := BareKey l.key ∧ l.literal.Written

def Line.statement (l : Line) : Statement := .entry ⟨[], l.key, l.literal.value⟩

theorem statements?_line {l : Line} (hl : l.Written) {rest r : List Char} (hr : Ended rest)
    (hend : endLine? rest = some r) (fuel : Nat) :
    statements? (fuel + 1) (l.text ++ rest) = (statements? fuel r).map (l.statement :: ·) := by
  rw [l.text_append, statements?_assignment hl.1, statement?_assignment hl.1,
    l.literal.skipBlanks_text, Literal.readValue?_of_written hl.2 hr]
  simp only [Option.bind_some, hend, Option.map_some]
  rfl

theorem statements?_leads {rest cs : List Char} {ls : List Line} (h : Leads rest ls cs)
    (hls : ∀ l ∈ ls, l.Written) (fuel : Nat) :
    statements? (ls.length + fuel) cs =
      (statements? fuel rest).map (ls.map Line.statement ++ ·) := by
  induction h with
  | nil => simp
  | @cons ls cs l e _ ih =>
    have hrest := ih fun x hx => hls x (List.mem_cons_of_mem _ hx)
    have hfuel : (l :: ls).length + fuel = ls.length + fuel + 1 := by
      rw [List.length_cons]
      omega
    rw [hfuel, statements?_line (hls l (by simp)) (ended_text e cs) (endLine?_text e cs), hrest,
      Option.map_map]
    rfl

theorem Leads.length_le {rest cs : List Char} {ls : List Line} (h : Leads rest ls cs) :
    ls.length + rest.length ≤ cs.length := by
  induction h with
  | nil => simp
  | @cons ls cs l e _ ih =>
    have he : 0 < e.text.length := by cases e <;> decide
    simp only [List.length_cons, List.length_append]
    omega

theorem dropMark_assignment {key : String} (hkey : BareKey key) (rest : List Char) :
    dropMark (assignment key rest) = assignment key rest := by
  obtain ⟨c, cs, hcons, hc⟩ := assignment_eq_cons hkey rest
  rw [hcons, dropMark.eq_def]
  split
  · next h => exact absurd (List.cons.inj h).1 (ne_of_isBare hc rfl)
  · rfl

theorem Leads.dropMark {rest cs : List Char} {ls : List Line} (h : Leads rest ls cs)
    (hls : ∀ l ∈ ls, l.Written) (hrest : dropMark rest = rest) : dropMark cs = cs := by
  cases h with
  | nil => exact hrest
  | @cons ls cs l e _ =>
    rw [l.text_append]
    exact dropMark_assignment (hls l (by simp)).1 _

theorem Entries.insert_nil (es : Entries) (key : String) (v : Value) :
    es.insert [] key v = if key ∈ es.map Prod.fst then none else some (es ++ [(key, v)]) := by
  rw [insert, descend, insertLast]
  cases hlookup : es.lookup key with
  | none =>
    rw [if_neg (lookup_eq_none_iff_not_mem_keys.1 hlookup)]
    rfl
  | some w =>
    have hkey : key ∈ es.map Prod.fst := by
      by_contra hnew
      rw [lookup_eq_none_iff_not_mem_keys.2 hnew] at hlookup
      cases hlookup
    rw [if_pos hkey]
    rfl

theorem foldlM_add_lines (ls : List Line) (es : Entries) (hes : (es.map Prod.fst).Nodup) :
    (ls.map Line.statement).foldlM Draft.add ⟨[], .top, es⟩ =
      if (es.map Prod.fst ++ ls.map Line.key).Nodup then
        some ⟨[], .top, es ++ ls.map Line.entry⟩ else none := by
  induction ls generalizing es with
  | nil => simp [hes]
  | cons l ls ih =>
    have hadd : Draft.add ⟨[], .top, es⟩ l.statement =
        (es.insert [] l.key l.literal.value).map fun body => ⟨[], .top, body⟩ := by
      cases h : es.insert [] l.key l.literal.value <;>
        simp [Draft.add, Line.statement, h, bind, pure]
    rw [List.map_cons, List.foldlM_cons, hadd, Entries.insert_nil]
    by_cases hkey : l.key ∈ es.map Prod.fst
    · have hdup : ¬ (es.map Prod.fst ++ (l :: ls).map Line.key).Nodup := fun h =>
        (List.disjoint_of_nodup_append h) hkey (by simp)
      rw [if_pos hkey, if_neg hdup]
      rfl
    · have hkeys : ((es ++ [l.entry]).map Prod.fst).Nodup :=
        Entries.stable_nodup_keys.append hes (Entries.lookup_eq_none_iff_not_mem_keys.2 hkey)
      have hsame : (es ++ [l.entry]).map Prod.fst ++ ls.map Line.key =
          es.map Prod.fst ++ (l :: ls).map Line.key := by
        simp [Line.entry]
      rw [if_neg hkey]
      simp only [Option.map_some, bind, Option.bind_some]
      rw [show (l.key, l.literal.value) = l.entry from rfl, ih _ hkeys, hsame]
      simp

theorem Document.dropMark {ls : List Line} {cs : List Char} (h : Document ls cs)
    (hls : ∀ l ∈ ls, l.Written) : dropMark cs = cs := by
  rcases h with h | ⟨before, last, rfl, h⟩
  · exact h.dropMark hls rfl
  · have hbefore : ∀ l ∈ before, l.Written := fun l hl => hls l (by simp [hl])
    exact h.dropMark hbefore (dropMark_assignment (hls last (by simp)).1 _)

theorem statements?_document {ls : List Line} {cs : List Char} (h : Document ls cs)
    (hls : ∀ l ∈ ls, l.Written) :
    statements? (cs.length + 1) cs = some (ls.map Line.statement) := by
  rcases h with h | ⟨before, last, rfl, h⟩
  · have hlength := h.length_le
    obtain ⟨fuel, hfuel⟩ : ∃ k, cs.length + 1 = ls.length + (k + 1) :=
      ⟨cs.length - ls.length, by omega⟩
    rw [hfuel, statements?_leads h hls]
    simp [statements?, skipBlanks]
  · have hbefore : ∀ l ∈ before, l.Written := fun l hl => hls l (by simp [hl])
    have hlast : last.Written := hls last (by simp)
    have hlength := h.length_le
    have htwo : 2 ≤ last.text.length := by
      simp only [Line.text, assignment, List.length_append, List.length_cons]
      omega
    obtain ⟨fuel, hfuel⟩ : ∃ k, cs.length + 1 = before.length + (k + 1 + 1) :=
      ⟨cs.length - 1 - before.length, by omega⟩
    have hline := statements?_line hlast (.inl rfl) (r := []) rfl (fuel + 1)
    rw [List.append_nil] at hline
    have hend : statements? (fuel + 1) [] = some [] := rfl
    rw [hfuel, statements?_leads h hbefore, hline, hend]
    simp

theorem parse?_of_document {ls : List Line} {cs : List Char} (h : Document ls cs)
    (hls : ∀ l ∈ ls, l.Written) (once : (ls.map Line.key).Nodup) :
    parse? cs = some (ls.map Line.entry) := by
  have hfold := foldlM_add_lines ls [] List.nodup_nil
  rw [if_pos (by simpa using once)] at hfold
  simp only [parse?, h.dropMark hls, statements?_document h hls, Entries.ofStatements, Draft.empty,
    hfold, bind, Option.bind]
  rfl

/-- What follows some lines begins with a bare key. If the whole is a table, the key is none of
theirs, and its value is the one that is written there: nothing later changes it. -/
theorem mem_of_parse?_leads {ls : List Line} {key : String} {rest cs : List Char} {es : Entries}
    (h : Leads (assignment key rest) ls cs) (hls : ∀ l ∈ ls, l.Written) (hkey : BareKey key)
    (hparse : parse? cs = some es) :
    key ∉ ls.map Line.key ∧
      ∃ v r, readValue? (skipBlanks rest) = some (v, r) ∧ (key, v) ∈ es := by
  have hlength := h.length_le
  have hpositive : 0 < (assignment key rest).length := by
    simp only [assignment, List.length_append, List.length_cons]
    omega
  obtain ⟨fuel, hfuel⟩ : ∃ k, cs.length + 1 = ls.length + (k + 1) :=
    ⟨cs.length - ls.length, by omega⟩
  simp only [parse?, h.dropMark hls (dropMark_assignment hkey rest), hfuel, statements?_leads h hls,
    statements?_assignment hkey, statement?_assignment hkey, Entries.ofStatements, bind,
    Option.bind_eq_some_iff, Option.map_eq_some_iff] at hparse
  obtain ⟨_, ⟨_, ⟨_, ⟨⟨v, r⟩, hvalue, r', -, rfl⟩, ss, -, rfl⟩, rfl⟩, d, hfold, hclose⟩ := hparse
  rw [List.foldlM_append, Draft.empty, foldlM_add_lines ls [] List.nodup_nil] at hfold
  split at hfold
  case isFalse => cases hfold
  simp only [List.nil_append, List.foldlM_cons, Draft.add, bind, Option.bind_some,
    Option.bind_eq_some_iff, Entries.insert_nil] at hfold
  obtain ⟨d', ⟨body, hbody, heq⟩, hrest⟩ := hfold
  split at hbody
  · cases hbody
  · next hnew =>
    cases hbody
    cases heq
    refine ⟨by simpa [Line.entry] using hnew, v, r, hvalue, ?_⟩
    have hstable := Entries.stable_lookup (k := key) (readValue?_not_grows hvalue)
    have hbody : (ls.map Line.entry ++ [(key, v)]).lookup key = some v := by
      rw [List.lookup_append, Entries.lookup_eq_none_iff_not_mem_keys.2 hnew]
      simp
    have hd := Draft.foldlM_add_stable hstable
      (d := ⟨[], .top, ls.map Line.entry ++ [(key, v)]⟩) hbody hrest
    have hes := Draft.close_stable hstable hd hclose
    obtain ⟨before, after, rfl, -⟩ := List.lookup_eq_some_iff.1 hes
    simp

end TorusAutomaton.Toml
