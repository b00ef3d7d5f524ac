import TorusAutomaton.Proofs.Reading

/-! Settings written as lines of a text, one for each part that is given. Such a text is read as the
defaults with these parts replaced, in whatever order its lines are; any other line spoils it. -/
namespace TorusAutomaton

open Toml (Value Entries Line Literal Leads Document BareKey Ended Unescaped assignment readValue?
  skipBlanks)

def Part.literal : (p : Part) → p.Content → Literal
  | .rows, n | .cols, n | .generations, n => .integer (Int.ofNat n)
  | .pattern, s => .string s
  | .rule, r => .string r.name

/-- The characters that a value of a part may begin with. -/
def Part.Opens : Part → Char → Prop
  | .rows, c | .cols, c | .generations, c => c = '+' ∨ c = '-' ∨ Text.isDecimal c = true
  | .pattern, c => c = '"' ∨ c = '\''
  | .rule, c => c = '"' ∨ c = '\'' ∨ c = '\x7b'

theorem Part.bareKey_key (p : Part) : BareKey p.key := by
  cases p <;> exact ⟨by decide, List.all_eq_true.1 rfl⟩

namespace Setting

def line (w : Setting) : Line := ⟨w.part.key, w.part.literal w.content⟩

/-- Contents that a line can give: of the sizes only signed words, of the patterns only those that
need no escapes. -/
inductive InText : Setting → Prop where
  | rows {n : Nat} : n < 0x8000000000000000 → InText ⟨.rows, n⟩
  | cols {n : Nat} : n < 0x8000000000000000 → InText ⟨.cols, n⟩
  | generations {n : Nat} : n < 0x100000000 → InText ⟨.generations, n⟩
  | pattern {s : String} : (∀ c ∈ s.toList, Unescaped c) → InText ⟨.pattern, s⟩
  | rule (r : NamedRule) : InText ⟨.rule, r⟩

theorem InText.written {w : Setting} (hw : w.InText) : w.line.Written := by
  refine ⟨w.part.bareKey_key, ?_⟩
  cases hw with
  | rows hn => exact Toml.isWord_natCast hn
  | cols hn => exact Toml.isWord_natCast hn
  | generations hn => exact Toml.isWord_natCast (Nat.lt_trans hn (by decide))
  | pattern hs => exact hs
  | rule r =>
    have hname : ∀ c ∈ r.name.toList, Unescaped c := by
      apply Toml.unescaped_of_all
      cases r <;> rfl
    exact hname

theorem InText.reads {w : Setting} (hw : w.InText) : Settings.Reads w.line.literal.value w := by
  cases hw with
  | rows hn => exact .rows (Nat.lt_trans hn (by decide))
  | cols hn => exact .cols (Nat.lt_trans hn (by decide))
  | generations hn => exact .generations hn
  | pattern hs => exact .pattern _
  | rule r => exact .rule .plain

/-- Of the literals only that of a content in range is read as this content. -/
theorem inText_of_reads {x : Literal} {w : Setting} (hx : x.Written)
    (h : Settings.Reads x.value w) : w.InText ∧ x = w.line.literal := by
  cases x with
  | integer n =>
    generalize hv : Literal.value (.integer n) = v at h
    cases h with
    | rows hn =>
      obtain rfl := Value.integer.inj hv
      exact ⟨.rows (by have := hx.2; omega), rfl⟩
    | cols hn =>
      obtain rfl := Value.integer.inj hv
      exact ⟨.cols (by have := hx.2; omega), rfl⟩
    | generations hn =>
      obtain rfl := Value.integer.inj hv
      exact ⟨.generations hn, rfl⟩
    | pattern s => cases hv
    | rule hr => cases hr <;> cases hv
  | string s =>
    generalize hv : Literal.value (.string s) = v at h
    cases h with
    | rows hn => cases hv
    | cols hn => cases hv
    | generations hn => cases hv
    | pattern s' =>
      obtain rfl := Value.string.inj hv
      exact ⟨.pattern hx, rfl⟩
    | rule hr =>
      cases hr with
      | plain =>
        obtain rfl := Value.string.inj hv
        exact ⟨.rule _, rfl⟩
      | table => cases hv

end Setting

namespace Settings

variable {ws : List Setting}

theorem written_lines (hws : ∀ w ∈ ws, w.InText) : ∀ l ∈ ws.map Setting.line, l.Written := by
  intro l hl
  obtain ⟨w, hw, rfl⟩ := List.mem_map.1 hl
  exact (hws w hw).written

theorem keys_lines (ws : List Setting) :
    (ws.map Setting.line).map Line.key = (ws.map Setting.part).map Part.key := by
  simp only [List.map_map]
  rfl

/-- The entries of the lines ask for what the lines say. -/
theorem entered_lines (hws : ∀ w ∈ ws, w.InText) :
    entered ((ws.map Setting.line).map Line.entry) = (· ∈ ws) := by
  funext ⟨p, x⟩
  apply propext
  simp only [entered, List.map_map, List.mem_map]
  constructor
  · rintro ⟨v, ⟨⟨p', y⟩, hmem, heq⟩, hv⟩
    obtain ⟨hkey, rfl⟩ := Prod.mk.inj heq
    obtain rfl := Part.key_injective hkey
    rw [hv.unique (hws _ hmem).reads]
    exact hmem
  · intro hmem
    exact ⟨_, ⟨_, hmem, rfl⟩, (hws _ hmem).reads⟩

theorem usable_lines (hws : ∀ w ∈ ws, w.InText) :
    ∀ e ∈ (ws.map Setting.line).map Line.entry, Usable e := by
  intro e he
  simp only [List.map_map, List.mem_map] at he
  obtain ⟨w, hw, rfl⟩ := he
  exact ⟨w, rfl, (hws w hw).reads⟩

theorem Reads.opens {v : Value} {w : Setting} {c : Char} (h : Reads v w) (hc : v.Opens c) :
    w.part.Opens c := by
  cases h with
  | rows hn => exact hc
  | cols hn => exact hc
  | generations hn => exact hc
  | pattern s => exact hc
  | rule hr =>
    cases hr with
    | plain =>
      rcases hc with hc | hc
      · exact .inl hc
      · exact .inr (.inl hc)
    | table => exact .inr (.inr hc)

/-- What a bare key must not have behind it, up to the end of the text, when
settings were given before it. -/
inductive Spoiled (ws : List Setting) (key : String) : List Char → Prop where
  | foreign (rest : List Char) : (∀ p : Part, key ≠ p.key) → Spoiled ws key rest
  | again {w : Setting} (rest : List Char) : w ∈ ws → key = w.part.key → Spoiled ws key rest
  | literal {x : Literal} {rest : List Char} : (∀ s, x = .string s → x.Written) → Ended rest →
      (∀ w : Setting, w.InText → key = w.part.key → x ≠ w.line.literal) →
      Spoiled ws key (x.text ++ rest)
  | opening {p : Part} {c : Char} (rest : List Char) : key = p.key → Toml.isBlank c = false →
      ¬ p.Opens c → Spoiled ws key (c :: rest)
  | value {rest : List Char} : (∀ v r w, readValue? (skipBlanks rest) = some (v, r) →
      key = w.part.key → ¬ Reads v w) → Spoiled ws key rest

/-- If a text that begins with lines of settings is read, then so is the line after them, as an
entry of a part that they do not give. -/
theorem parse_leads {key : String} {rest cs : List Char} {s : Settings}
    (h : Leads (assignment key rest) (ws.map Setting.line) cs) (hws : ∀ w ∈ ws, w.InText)
    (hkey : BareKey key) (hs : parse cs = .ok s) :
    key ∉ (ws.map Setting.line).map Line.key ∧
      ∃ v r, readValue? (skipBlanks rest) = some (v, r) ∧ Usable (key, v) := by
  obtain ⟨es, hparse, husable, -⟩ := parse_eq_ok_iff.1 hs
  obtain ⟨hnew, v, r, hvalue, hmem⟩ := Toml.mem_of_parse?_leads h (written_lines hws) hkey hparse
  exact ⟨hnew, v, r, hvalue, husable _ hmem⟩

theorem Spoiled.parse_ne_ok {key : String} {rest cs : List Char} {s : Settings}
    (hspoiled : Spoiled ws key rest)
    (h : Leads (assignment key rest) (ws.map Setting.line) cs) (hws : ∀ w ∈ ws, w.InText)
    (hkey : BareKey key) : parse cs ≠ .ok s := by
  intro hs
  obtain ⟨hnew, v, r, hvalue, w, hpart, hread⟩ := parse_leads h hws hkey hs
  cases hspoiled with
  | foreign _ hforeign => exact hforeign w.part hpart
  | again _ hw hagain =>
    apply hnew
    rw [keys_lines, hagain]
    exact List.mem_map_of_mem (List.mem_map_of_mem hw)
  | @literal x rest hx hended hunfit =>
    rw [x.skipBlanks_text] at hvalue
    obtain ⟨hwritten, rfl⟩ := Literal.of_readValue?_text hx hended hvalue
    obtain ⟨hw, heq⟩ := Setting.inText_of_reads hwritten hread
    exact hunfit w hw hpart heq
  | @opening p c rest hp hblank hopens =>
    obtain rfl := Part.key_injective (hp.symm.trans hpart)
    rw [Toml.skipBlanks_cons hblank] at hvalue
    exact hopens (hread.opens (Toml.readValue?_opens hvalue))
  | value hunfit => exact hunfit v r w hvalue hpart hread

theorem parse?_lines {cs : List Char} (hws : ∀ w ∈ ws, w.InText)
    (once : (ws.map Setting.part).Nodup) (h : Document (ws.map Setting.line) cs) :
    Toml.parse? cs = some ((ws.map Setting.line).map Line.entry) := by
  apply Toml.parse?_of_document h (written_lines hws)
  rw [keys_lines]
  exact once.map Part.key_injective

theorem ofText_lines {cs : List Char} {s : Settings} (hws : ∀ w ∈ ws, w.InText)
    (once : (ws.map Setting.part).Nodup) (h : Document (ws.map Setting.line) cs) :
    ofText (String.ofList cs) = .ok s ↔ Request.Over (· ∈ ws) default s := by
  rw [ofText_eq_ok_iff, String.toList_ofList, parse_eq_ok_iff, parse?_lines hws once h,
    ← entered_lines hws]
  constructor
  · rintro ⟨es, hes, -, hover⟩
    obtain rfl := Option.some.inj hes
    exact hover
  · intro hover
    exact ⟨_, rfl, usable_lines hws, hover⟩

/-- The lines of a text may stand in any order: they replace the parts of the
defaults that they give. A line that is spoiled, after any number of good ones
and whatever follows it, makes the whole fail. -/
theorem ofText_reads_lines (hws : ∀ w ∈ ws, w.InText) (once : (ws.map Setting.part).Nodup) :
    (∃ s, (∀ t, Request.Over (· ∈ ws) default t ↔ t = s) ∧
      ∀ (ws' : List Setting) (cs : List Char), ws'.Perm ws → Document (ws'.map Setting.line) cs →
        ofText (String.ofList cs) = .ok s) ∧
    ∀ key rest cs, BareKey key → Leads (assignment key rest) (ws.map Setting.line) cs →
      Spoiled ws key rest → ∃ problem, ofText (String.ofList cs) = .error (.settings problem) := by
  constructor
  · obtain ⟨s, hs⟩ := Request.exists_over (· ∈ ws) default
    refine ⟨s, fun t => (Request.single_mem once).over_iff hs, ?_⟩
    intro ws' cs hperm hdoc
    have hws' : ∀ w ∈ ws', w.InText := fun w hw => hws w (hperm.mem_iff.1 hw)
    have once' : (ws'.map Setting.part).Nodup := (hperm.map _).nodup_iff.2 once
    have hsame : (· ∈ ws' : Request) = (· ∈ ws) := funext fun w => propext hperm.mem_iff
    rw [ofText_lines hws' once' hdoc, hsame]
    exact hs
  · intro key rest cs hkey hleads hspoiled
    cases hparse : parse cs with
    | ok s => exact absurd hparse (hspoiled.parse_ne_ok hleads hws hkey)
    | error problem =>
      refine ⟨problem, ?_⟩
      rw [ofText, String.toList_ofList, hparse]

/-- Two lines in another order than their settings, and the same two with a spoiled one. -/
theorem ofText_reads_lines_of_two_parts :
    ((∀ w ∈ [⟨.rows, (0 : Nat)⟩, ⟨.pattern, "a [b] #c"⟩], Setting.InText w) ∧
      ([⟨.rows, (0 : Nat)⟩, ⟨.pattern, "a [b] #c"⟩].map Setting.part).Nodup) ∧
    ofText "pattern = \"a [b] #c\"\r\nrows = 0" =
      .ok { (default : Settings) with rows := 0, seedName := "a [b] #c" } ∧
    ∃ problem, ofText "rows = 0\npattern = \"a [b] #c\"\ncols = -1\ncols = 1" =
      .error (.settings problem) := by
  have hws : ∀ w ∈ [⟨.rows, (0 : Nat)⟩, ⟨.pattern, "a [b] #c"⟩], Setting.InText w := by
    simp only [List.mem_cons, List.not_mem_nil, or_false]
    rintro w (rfl | rfl)
    · exact .rows (by decide)
    · exact .pattern (Toml.unescaped_of_all rfl)
  have once : ([⟨.rows, (0 : Nat)⟩, ⟨.pattern, "a [b] #c"⟩].map Setting.part).Nodup := by decide
  obtain ⟨⟨s, hs, htext⟩, hspoiled⟩ := ofText_reads_lines hws once
  have hover : Request.Over (· ∈ [⟨.rows, (0 : Nat)⟩, ⟨.pattern, "a [b] #c"⟩]) default
      { (default : Settings) with rows := 0, seedName := "a [b] #c" } := by
    intro p
    cases p with
    | rows => exact .inl List.mem_cons_self
    | pattern => exact .inl (List.mem_cons_of_mem _ List.mem_cons_self)
    | cols => exact .inr ⟨Setting.not_mem_of_part (by decide), rfl⟩
    | generations => exact .inr ⟨Setting.not_mem_of_part (by decide), rfl⟩
    | rule => exact .inr ⟨Setting.not_mem_of_part (by decide), rfl⟩
  obtain rfl := (hs _).1 hover
  refine ⟨⟨hws, once⟩, ?_, ?_⟩
  · exact htext [⟨.pattern, "a [b] #c"⟩, ⟨.rows, (0 : Nat)⟩]
      "pattern = \"a [b] #c\"\r\nrows = 0".toList (.swap _ _ _)
      (.inr ⟨[Setting.line ⟨.pattern, "a [b] #c"⟩], Setting.line ⟨.rows, (0 : Nat)⟩, rfl,
        .cons _ .returnFeed .nil⟩)
  · have hnegative : Spoiled [⟨.rows, (0 : Nat)⟩, ⟨.pattern, "a [b] #c"⟩] "cols"
        ((Literal.integer (-1)).text ++ "\ncols = 1".toList) := by
      refine .literal (fun s h => ?_) (.inr ⟨.feed, "cols = 1".toList, rfl⟩) ?_
      · cases h
      · intro w hw hkey heq
        have hpart : Part.cols = w.part := Part.key_injective hkey
        cases hw with
        | cols hn => cases heq
        | _ => cases hpart
    exact hspoiled "cols" _ "rows = 0\npattern = \"a [b] #c\"\ncols = -1\ncols = 1".toList
      (Part.bareKey_key .cols) (.cons _ .feed (.cons _ .feed .nil)) hnegative

end Settings

end TorusAutomaton
