import TorusAutomaton.Proofs.Documents
import TorusAutomaton.Proofs.Spelling
import TorusAutomaton.Session

/-! Where settings come from. What the arguments ask for comes first, then what the file asks for
that they or the environment name, then the defaults; each part by itself, however and in whatever
order the arguments say it. -/
namespace TorusAutomaton

namespace CommandLine

def Wish.path? : Wish → Option String
  | .config path => some path
  | .setting _ | .verbose => none

/-- The file to begin with. A path in the arguments is preferred to the one in the environment. -/
def chosen (ws : List Wish) (configPath : Option String) : Option String :=
  (ws.findSome? Wish.path?).or configPath

theorem findSome?_path_eq_some_iff {ws : List Wish} (once : (ws.map Wish.name).Nodup)
    {path : String} : ws.findSome? Wish.path? = some path ↔ .config path ∈ ws := by
  have hmem : ∀ path', ws.findSome? Wish.path? = some path' → .config path' ∈ ws := by
    intro path' h
    obtain ⟨x, hx, hpath⟩ := List.exists_of_findSome?_eq_some h
    cases x with
    | config _ =>
      cases hpath
      exact hx
    | setting w => cases hpath
    | verbose => cases hpath
  constructor
  · exact hmem path
  · intro h
    cases hfind : ws.findSome? Wish.path? with
    | none =>
      rw [List.findSome?_eq_none_iff] at hfind
      cases hfind _ h
    | some path' =>
      have hsame := List.inj_on_of_nodup_map once (hmem path' hfind) h rfl
      cases hsame
      rfl

theorem Arguments.Holds.config_eq {a : Arguments} {ws : List Wish} (h : a.Holds ws)
    (once : (ws.map Wish.name).Nodup) : a.config = ws.findSome? Wish.path? := by
  ext path
  rw [findSome?_path_eq_some_iff once]
  exact h.config path

theorem chosen_congr {ws ws' : List Wish} (once : (ws.map Wish.name).Nodup)
    (once' : (ws'.map Wish.name).Nodup)
    (h : ∀ path, Wish.config path ∈ ws' ↔ Wish.config path ∈ ws) (configPath : Option String) :
    chosen ws' configPath = chosen ws configPath := by
  have hfind : ws'.findSome? Wish.path? = ws.findSome? Wish.path? := by
    ext path
    rw [findSome?_path_eq_some_iff once', findSome?_path_eq_some_iff once]
    exact h path
  rw [chosen, chosen, hfind]

theorem parse_of_read {args : List String} {r : Reading} {a : Arguments}
    {configPath : Option String} (hread : Reading.arguments ⟨{}, none⟩ args = .ok r)
    (hsettle : r.settle = .ok a) (hpath : configPath ≠ some "") :
    parse args configPath = .ok { a with config := a.config.or configPath } := by
  rw [parse, hread]
  simp only [bind, Except.bind, hsettle]
  obtain ⟨config, rows, cols, generations, pattern, rule, verbose⟩ := a
  cases config with
  | some path => rfl
  | none =>
    cases configPath with
    | none => rfl
    | some path =>
      have hne : path.isEmpty = false := by
        by_contra hnil
        exact hpath (congrArg some (String.isEmpty_iff.1 (by simpa using hnil)))
      exact Arguments.give_config hne rfl

theorem parse_spelled {ws : List Wish} {args : List String} {configPath : Option String}
    (hs : Spelled ws args) (once : (ws.map Wish.name).Nodup) (hpath : configPath ≠ some "") :
    ∃ a, parse args configPath = .ok a ∧ a.config = chosen ws configPath ∧
      (∀ p x, a.get p = some x ↔ .setting ⟨p, x⟩ ∈ ws) ∧ (a.verbose = true ↔ .verbose ∈ ws) := by
  have hempty : Reading.Holds ⟨{}, none⟩ [] := ⟨{}, rfl, Arguments.holds_nil⟩
  obtain ⟨r, hread, a, hsettle, ha⟩ := hs.read hempty (by simpa using once)
  rw [List.nil_append] at ha
  refine ⟨_, parse_of_read hread hsettle hpath, ?_, ?_, ha.verbose⟩
  · rw [chosen, ha.config_eq once]
  · intro p x
    rw [← ha.setting p x]
    cases p <;> rfl

theorem Arguments.get_override (a : Arguments) (s : Settings) (p : Part) :
    (a.override s).get p = (a.get p).getD (s.get p) := by
  cases p <;> rfl

end CommandLine

open CommandLine (Arguments Wish Spelled chosen)

def wished (ws : List Wish) : Request := fun w => .setting w ∈ ws

theorem not_wished {ws : List Wish} {p : Part}
    (h : .parameter (CommandLine.parameterOf p) ∉ ws.map Wish.name) (x : p.Content) :
    ¬ wished ws ⟨p, x⟩ := fun hx => h (List.mem_map.2 ⟨_, hx, rfl⟩)

theorem over_override {a : Arguments} {ws : List Wish}
    (ha : ∀ p x, a.get p = some x ↔ .setting ⟨p, x⟩ ∈ ws) (s : Settings) :
    (wished ws).Over s (a.override s) := by
  intro p
  rw [a.get_override]
  cases hp : a.get p with
  | some x => exact .inl ((ha p x).1 hp)
  | none =>
    refine .inr ⟨?_, rfl⟩
    intro x hx
    rw [wished, ← ha, hp] at hx
    cases hx

theorem single_wished {a : Arguments} {ws : List Wish}
    (ha : ∀ p x, a.get p = some x ↔ .setting ⟨p, x⟩ ∈ ws) : (wished ws).Single := by
  intro p x y hx hy
  rw [wished, ← ha] at hx hy
  rw [hx] at hy
  exact Option.some.inj hy

namespace Session

/-- What the chosen file asks for: without a file nothing, else what the entries of its text say.
There is no such request if the file cannot be loaded. -/
inductive Supplies (w : Surroundings) : Option String → Request → Prop where
  | nothing : Supplies w none fun _ => False
  | file {path text : String} {bytes : ByteArray} {es : Toml.Entries} : w.read path = .ok bytes →
      String.fromUTF8? bytes = some text → Toml.parse? text.toList = some es →
      (∀ e ∈ es, Settings.Usable e) → Supplies w (some path) (Settings.entered es)

variable {w : Surroundings} {a : Arguments} {s : Settings} {file : Request}

theorem Supplies.single {path? : Option String} (h : Supplies w path? file) : file.Single := by
  cases h with
  | nothing => intro p x y hx _; exact hx.elim
  | file _ _ hparse _ => exact Settings.single_entered (Toml.nodup_keys_of_parse? hparse)

theorem base_eq_ok_iff :
    base w a = .ok s ↔ ∃ file, Supplies w a.config file ∧ file.Over default s := by
  rw [base]
  cases a.config with
  | none =>
    constructor
    · intro h
      cases h
      exact ⟨_, .nothing, Request.over_nothing _⟩
    · rintro ⟨file, hfile, hover⟩
      cases hfile
      rw [hover.unique (fun p x y hx _ => hx.elim) (Request.over_nothing _)]
  | some path =>
    dsimp only
    rw [Settings.ofBytes_eq_ok_iff]
    constructor
    · rintro ⟨bytes, text, hread, htext, h⟩
      obtain ⟨es, hparse, husable, hover⟩ :=
        Settings.parse_eq_ok_iff.1 (Settings.ofText_eq_ok_iff.1 h)
      exact ⟨_, .file hread htext hparse husable, hover⟩
    · rintro ⟨file, hfile, hover⟩
      cases hfile with
      | file hread htext hparse husable =>
        refine ⟨_, _, hread, htext, Settings.ofText_eq_ok_iff.2 (Settings.parse_eq_ok_iff.2 ?_)⟩
        exact ⟨_, hparse, husable, hover⟩

theorem supplies_lines {path : String} {ws : List Setting} {cs : List Char}
    (hws : ∀ x ∈ ws, x.InText) (once : (ws.map Setting.part).Nodup)
    (h : Toml.Document (ws.map Setting.line) cs)
    (hread : w.read path = .ok (String.ofList cs).toUTF8) : Supplies w (some path) (· ∈ ws) := by
  have htext : String.fromUTF8? (String.ofList cs).toUTF8 = some (String.ofList cs) :=
    dif_pos (String.ofList cs).isValidUTF8
  rw [← Settings.entered_lines hws]
  refine .file hread htext ?_ (Settings.usable_lines hws)
  rw [String.toList_ofList]
  exact Settings.parse?_lines hws once h

theorem configure_of_parse {args : List String} (h : CommandLine.parse args w.configPath = .ok a)
    (hs : base w a = .ok s) : configure w args = .ok (a.override s, a.verbose) := by
  rw [configure, h]
  dsimp only
  rw [hs]

theorem configure_of_unloadable {args : List String} {e : Failure}
    (h : CommandLine.parse args w.configPath = .ok a) (hs : base w a = .error e) :
    configure w args = .error (.unloadable (a.config.getD "") e) := by
  rw [configure, h]
  dsimp only
  rw [hs]

theorem override_congr {b : Arguments} (h : ∀ p, b.get p = a.get p) (s : Settings) :
    b.override s = a.override s := by
  apply Settings.ext_get
  intro p
  rw [b.get_override, a.get_override, h]

theorem map_configure_congr {b : Arguments} {args args' : List String}
    (h : CommandLine.parse args w.configPath = .ok a)
    (h' : CommandLine.parse args' w.configPath = .ok b) (hconfig : b.config = a.config)
    (hget : ∀ p, b.get p = a.get p) :
    (configure w args').map Prod.fst = (configure w args).map Prod.fst := by
  have hbase : base w b = base w a := by rw [base, base, hconfig]
  cases hs : base w a with
  | error e =>
    rw [configure_of_unloadable h hs, configure_of_unloadable h' (hbase.trans hs), hconfig]
  | ok s =>
    rw [configure_of_parse h hs, configure_of_parse h' (hbase.trans hs)]
    exact congrArg Except.ok (override_congr hget s)

/-- Each part of the settings is what the arguments ask for, else what the
chosen file asks for, else the default. How the arguments are spelled and
ordered makes no difference, nor does the switch. -/
theorem configure_follows_precedence {w : Surroundings} {ws : List Wish} {args : List String}
    (hs : Spelled ws args) (once : (ws.map Wish.name).Nodup) (hpath : w.configPath ≠ some "") :
    (∃ a, CommandLine.parse args w.configPath = .ok a) ∧
    (∀ file, Supplies w (chosen ws w.configPath) file →
      ∃ s verbose, configure w args = .ok (s, verbose) ∧ (verbose = true ↔ .verbose ∈ ws) ∧
        ∀ t, ((wished ws).orElse file).Over default t ↔ t = s) ∧
    ((∀ file, ¬ Supplies w (chosen ws w.configPath) file) →
      ∃ path e, chosen ws w.configPath = some path ∧
        configure w args = .error (.unloadable path e)) ∧
    (∀ (path : String) (doc : List Setting) (cs : List Char), (∀ x ∈ doc, x.InText) →
      (doc.map Setting.part).Nodup → Toml.Document (doc.map Setting.line) cs →
      w.read path = .ok (String.ofList cs).toUTF8 → Supplies w (some path) (· ∈ doc)) ∧
    ∀ (ws' : List Wish) (args' : List String), Spelled ws' args' → (ws'.map Wish.name).Nodup →
      (∀ x, x ≠ .verbose → (x ∈ ws' ↔ x ∈ ws)) →
      (configure w args').map Prod.fst = (configure w args).map Prod.fst := by
  obtain ⟨a, hparse, hconfig, hsetting, hverbose⟩ := CommandLine.parse_spelled hs once hpath
  refine ⟨⟨a, hparse⟩, ?_, ?_, ?_, ?_⟩
  · intro file hfile
    obtain ⟨base', hbase'⟩ := Request.exists_over file default
    have hbase : base w a = .ok base' := base_eq_ok_iff.2 ⟨file, hconfig ▸ hfile, hbase'⟩
    have hover := hbase'.orElse (over_override hsetting base')
    have hsingle := (single_wished hsetting).orElse hfile.single
    exact ⟨_, _, configure_of_parse hparse hbase, hverbose, fun t => hsingle.over_iff hover⟩
  · intro hnone
    cases hbase : base w a with
    | ok s =>
      obtain ⟨file, hfile, -⟩ := base_eq_ok_iff.1 hbase
      exact absurd (hconfig ▸ hfile) (hnone file)
    | error e =>
      cases hc : chosen ws w.configPath with
      | none => exact absurd (hc ▸ Supplies.nothing) (hnone _)
      | some path =>
        have h := configure_of_unloadable hparse hbase
        rw [hconfig, hc] at h
        exact ⟨path, e, rfl, h⟩
  · intro path doc cs hdoc honce hlines hread
    exact supplies_lines hdoc honce hlines hread
  · intro ws' args' hs' once' hsame
    obtain ⟨b, hparse', hconfig', hsetting', -⟩ := CommandLine.parse_spelled hs' once' hpath
    refine map_configure_congr hparse hparse' ?_ ?_
    · rw [hconfig', hconfig]
      exact CommandLine.chosen_congr once once' (fun path => hsame _ (by simp)) _
    · intro p
      ext x
      rw [hsetting', hsetting]
      exact hsame _ (by simp)

/-- Three settings and the switch over a file; the switch and one setting share an argument. -/
theorem configure_follows_precedence_of_cluster :
    (Spelled [.verbose, .setting ⟨.generations, (3 : Nat)⟩, .setting ⟨.rows, (9 : Nat)⟩,
        .setting ⟨.rule, .majority⟩] ["-vg3", "--rows=+09", "--rule", "majority"] ∧
      ([.verbose, .setting ⟨.generations, (3 : Nat)⟩, .setting ⟨.rows, (9 : Nat)⟩,
        .setting ⟨.rule, .majority⟩].map Wish.name).Nodup ∧ some "run.toml" ≠ some "") ∧
    configure ⟨some "run.toml", none, fun _ => .ok "rows = 0\npattern = \"none\"\n".toUTF8⟩
        ["-vg3", "--rows=+09", "--rule", "majority"] =
      .ok (⟨9, 20, 3, "none", .majority⟩, true) := by
  have hs : Spelled [.verbose, .setting ⟨.generations, (3 : Nat)⟩, .setting ⟨.rows, (9 : Nat)⟩,
      .setting ⟨.rule, .majority⟩] ["-vg3", "--rows=+09", "--rule", "majority"] := by
    have hcount : (Wish.setting ⟨.generations, (3 : Nat)⟩).Value "3" :=
      .setting ⟨'3', [], rfl, by decide⟩
        (.generations ⟨['3'], .inl rfl, by decide, List.all_eq_true.1 rfl, rfl⟩ (by decide))
    have hrows : (Wish.setting ⟨.rows, (9 : Nat)⟩).Value "+09" :=
      .setting ⟨'+', ['0', '9'], rfl, by decide⟩
        (.rows ⟨['0', '9'], .inr rfl, by decide, List.all_eq_true.1 rfl, rfl⟩ (by decide))
    have hrule : (Wish.setting ⟨.rule, .majority⟩).Value "majority" :=
      .setting ⟨'m', "ajority".toList, rfl, by decide⟩ (.rule .majority)
    have hcluster := CommandLine.Cluster.more (.attached rfl hcount)
    exact .short hcluster (.longEquals hrows (.long hrule .nil))
  have once : ([.verbose, .setting ⟨.generations, (3 : Nat)⟩, .setting ⟨.rows, (9 : Nat)⟩,
      .setting ⟨.rule, .majority⟩].map Wish.name).Nodup := by decide
  have hpath : some "run.toml" ≠ some "" := by decide
  obtain ⟨-, hconfigure, -, hlines, -⟩ := configure_follows_precedence
    (w := ⟨some "run.toml", none, fun _ => .ok "rows = 0\npattern = \"none\"\n".toUTF8⟩)
    hs once hpath
  have hfile := hlines "run.toml" [⟨.rows, (0 : Nat)⟩, ⟨.pattern, "none"⟩]
    "rows = 0\npattern = \"none\"\n".toList (by
      simp only [List.mem_cons, List.not_mem_nil, or_false]
      rintro x (rfl | rfl)
      · exact .rows (by decide)
      · exact .pattern (Toml.unescaped_of_all rfl))
    (by decide) (.inl (.cons _ .feed (.cons _ .feed .nil))) rfl
  obtain ⟨s, verbose, hok, hverbose, hsettings⟩ := hconfigure _ hfile
  have hsame : s = ⟨9, 20, 3, "none", .majority⟩ := by
    refine ((hsettings _).1 fun p => ?_).symm
    cases p with
    | rows => exact .inl (.inl (by simp [wished, Settings.get]))
    | generations => exact .inl (.inl (by simp [wished, Settings.get]))
    | rule => exact .inl (.inl (by simp [wished, Settings.get]))
    | pattern => exact .inl (.inr ⟨not_wished (by decide), by simp [Settings.get]⟩)
    | cols =>
      refine .inr ⟨?_, rfl⟩
      rintro x (hx | ⟨-, hx⟩)
      · exact not_wished (by decide) x hx
      · exact Setting.not_mem_of_part (by decide) x hx
  have hon : verbose = true := hverbose.2 List.mem_cons_self
  refine ⟨⟨hs, once, hpath⟩, ?_⟩
  rw [hok, hsame, hon]

end Session

end TorusAutomaton
