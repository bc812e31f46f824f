/-
# Converting the lines of an input

Without a statement among its arguments the program converts the lines of standard input, one after
another and with one converter and its cache.  Each line fares as if it were converted alone and
without a cache (`CommandLine.run_converts_lines`): what stands in the cache is what the converter
would answer anyway (`Machine.Sound`), and a failure leaves the converter fit for the next line.

A failure is reported on standard error, where a log may be written too and figures at the end.  All
of that takes up whole lines, and so a report has a line of its own (`Text.OnLines`).

* `Sound.answer`, `Sound.convert`: what a machine answers, and that it stays sound;
* `renderError_message`: how a failure is reported;
* `written_convertLine`, `written_convertLines`: what is written for one line and for some;
* `newline_notMem_of_uncached`: a nested form takes up one line.
-/
import NestedJoin.CommandLine.Program
import NestedJoin.Proofs.Config.Identifiers
import NestedJoin.Proofs.Converter.Uncached
import NestedJoin.Proofs.Group.Results
import NestedJoin.Proofs.Text.Lines

namespace NestedJoin

/-! ## 1. Texts on lines -/

namespace Text

/-- A text is made of whole lines, and some of them, in this order, are the given ones. -/
def OnLines (given : List Text) (t : Text) : Prop :=
  ∃ lines, t = lines.flatMap (· ++ ['\n']) ∧ given.Sublist lines

/-- Whole lines, whatever they are. -/
theorem onLines_flatMap (lines : List Text) : OnLines [] (lines.flatMap (· ++ ['\n'])) :=
  ⟨lines, rfl, List.nil_sublist lines⟩

theorem onLines_nil : OnLines [] [] := onLines_flatMap []

theorem onLines_singleton (t : Text) : OnLines [t] (t ++ ['\n']) :=
  ⟨[t], (List.flatMap_singleton (· ++ ['\n']) t).symm, List.Sublist.refl _⟩

theorem OnLines.append {given given' : List Text} {s t : Text} (hs : OnLines given s)
    (ht : OnLines given' t) : OnLines (given ++ given') (s ++ t) := by
  obtain ⟨lines, rfl, hgiven⟩ := hs
  obtain ⟨lines', rfl, hgiven'⟩ := ht
  exact ⟨lines ++ lines', List.flatMap_append.symm, hgiven.append hgiven'⟩

/-- Further lines behind them change nothing. -/
theorem OnLines.append_lines {given : List Text} {s t : Text} (hs : OnLines given s)
    (ht : OnLines [] t) : OnLines given (s ++ t) := by
  have hall := hs.append ht
  rwa [List.append_nil] at hall

/-- Texts without a line feed, each on a line of its own, are found again by cutting the lines. -/
theorem splitOn_flatMap_line : ∀ {texts : List Text}, (∀ t ∈ texts, '\n' ∉ t) →
    (texts.flatMap (· ++ ['\n'])).splitOn '\n' = texts ++ [[]]
  | [], _ => rfl
  | t :: texts, h => by
    have hrest := splitOn_flatMap_line fun u hu => h u (List.mem_cons_of_mem t hu)
    rw [List.flatMap_cons, List.append_assoc, List.singleton_append,
      List.splitOn_append_cons_self_of_not_mem (h t List.mem_cons_self), hrest, List.cons_append]

end Text

/-! ## 2. Nested forms on one line -/

/-- What stands in the result stands in the statement, or is put in. -/
theorem additive_mem (new : Char → Prop) :
    Additive fun s t : Text => ∀ c ∈ t, c ∈ s ∨ new c where
  refl _ _ hc := Or.inl hc
  append hs ht c hc := by
    rcases List.mem_append.mp hc with hc | hc
    · exact (hs c hc).imp_left (List.mem_append_left _)
    · exact (ht c hc).imp_left (List.mem_append_right _)

/-- **A nested form takes up one line** if the statement does and the lead is an identifier. -/
theorem Converter.newline_notMem_of_uncached {nameLead sql out : Text}
    (hlead : Config.isIdentifier nameLead = true) (hsql : '\n' ∉ sql)
    (h : uncached nameLead sql = .ok out) : '\n' ∉ out := by
  rw [uncached_eq_nest] at h
  intro hc
  rcases Statement.rel_of_nest (additive_mem _)
    (fun _ _ _ _ hn _ hc => Group.mem_outcome hn hc) h '\n' hc with hc | hc | hc | hc
  · exact hsql hc
  · exact absurd hc (by decide)
  · exact absurd (Config.continuesIdentifier_of_mem hlead hc) (by decide)
  · exact absurd hc (by decide)

namespace CommandLine

/-! ## 3. A machine whose cache is right -/

/-- A machine has a lead for its names, and its cache holds what is nested under that lead. -/
structure Machine.Sound (nameLead : Text) (m : Machine) : Prop where
  lead : m.converter.nameLead = nameLead
  entries : m.cache.enabled = true → ∀ sql answer, m.cache.held? sql = some answer →
    Converter.kept? nameLead sql = some answer

namespace Machine

theorem sound_ofConfig (config : Config) : (ofConfig config).Sound config.nameLead :=
  ⟨rfl, fun _ _ _ h => absurd h (by simp [ofConfig, Cache.held?])⟩

variable {m : Machine} {nameLead : Text}

/-- **A machine answers as without a cache.** -/
theorem Sound.answer (h : m.Sound nameLead) (sql : Text) :
    (m.converter.convert m.cache sql).value.answer = Converter.uncached nameLead sql := by
  rw [← h.lead]
  refine Converter.answer_convert_of_own_entry fun hon answer he => ?_
  rw [h.lead]
  exact h.entries hon sql answer he

/-- **And goes on with a right cache.** -/
theorem Sound.convert (h : m.Sound nameLead) (sql : Text) :
    let reply := (m.converter.convert m.cache sql).value
    Sound nameLead ⟨reply.converter, reply.cache⟩ := by
  refine ⟨(Converter.nameLead_convert _ _ _).trans h.lead, fun hon other answer he => ?_⟩
  have hon : m.cache.enabled = true := (Converter.enabled_convert _ _ _).symm.trans hon
  have he := (Converter.held?_convert hon m.converter sql other).symm.trans he
  rcases Option.or_eq_some_iff.mp he with he | ⟨-, he⟩
  · exact h.entries hon other answer he
  · split at he
    · rwa [h.lead] at he
    · exact absurd he (by simp)

end Machine

/-! ## 4. Standard error -/

/-- What is reported of a malformed chain.  Where styles are shown, the first word is in bold red. -/
def report (color : Bool) (chain : MalformedChain) : Text :=
  (if color then "\x1b[1;31mError:\x1b[0m".toList else "Error:".toList) ++ " ".toList ++
    ("Invalid join syntax in '".toList ++ Text.trim chain.group ++
      "': could not parenthesize the join block at '".toList ++ Text.trim chain.segment ++
      "'".toList)

/-- **An error is written as the report and a line feed.** -/
theorem renderError_message (color : Bool) (chain : MalformedChain) :
    renderError color chain.message = report color chain ++ ['\n'] := by
  have hword : Text.styled color .boldRed "Error:".toList =
      if color then "\x1b[1;31mError:\x1b[0m".toList else "Error:".toList := by
    cases color <;> rfl
  rw [renderError, hword]
  rfl

/-- Whatever else is written to standard error takes up whole lines: the log, other errors, and the
figures. -/
theorem onLines_line (t : Text) : Text.OnLines [] (line t) := by
  have hline := Text.onLines_flatMap [t]
  rwa [List.flatMap_singleton] at hline

theorem Settings.onLines_log (s : Settings) (events : List Log.Event) :
    Text.OnLines [] (s.log events).err := by
  have hlines := Text.onLines_flatMap ((events.filter s.filter.allows).map Log.Event.render)
  rwa [List.flatMap_map] at hlines

theorem onLines_renderError (color : Bool) (message : Text) :
    Text.OnLines [] (renderError color message) := onLines_line _

theorem onLines_renderFigures (color : Bool) (v : Converter) (cache : Cache) :
    Text.OnLines [] (renderFigures color v cache) :=
  ((onLines_line _).append_lines (onLines_line _)).append_lines (onLines_line _)

theorem onLines_closing (s : Settings) (verbose : Bool) (m : Machine) (failed : Nat) :
    Text.OnLines [] (closing s verbose m failed).err := by
  rw [closing]
  refine Text.OnLines.append_lines ?_ ?_
  · split
    · exact onLines_renderFigures s.color m.converter m.cache
    · exact Text.onLines_nil
  · split
    · exact Text.onLines_nil
    · exact onLines_renderError s.color _

/-! ## 5. What is written for some statements -/

/-- The statements among some lines: those with something in them that is no blank. -/
def statements (lines : List Text) : List Text :=
  lines.filter fun t => t.any fun c => !Text.isBlank c

/-- The statements that have a nested form, each with it. -/
def converted (nameLead : Text) (sqls : List Text) : List (Text × Text) :=
  sqls.filterMap fun sql => (Converter.uncached nameLead sql).toOption.map (sql, ·)

/-- The malformed chains among some statements. -/
def failures (nameLead : Text) (sqls : List Text) : List MalformedChain :=
  sqls.filterMap fun sql =>
    match Converter.uncached nameLead sql with
    | .ok _ => none
    | .error chain => some chain

/-- So many of some statements failed, and this has been written: the nested forms of the others,
and a report of each that failed. -/
structure Written (s : Settings) (nameLead : Text) (sqls : List Text) (failed : Nat) (o : Output) :
    Prop where
  failed : failed = (failures nameLead sqls).length
  out : o.out = (converted nameLead sqls).flatMap fun x => renderResult s.format x.1 x.2
  err : Text.OnLines ((failures nameLead sqls).map (report s.color)) o.err

@[simp] theorem Output.out_append (a b : Output) : (a ++ b).out = a.out ++ b.out := rfl

@[simp] theorem Settings.out_log (s : Settings) (events : List Log.Event) :
    (s.log events).out = [] := rfl

section Written

variable {s : Settings} {nameLead : Text}

theorem failures_append (sqls sqls' : List Text) :
    failures nameLead (sqls ++ sqls') = failures nameLead sqls ++ failures nameLead sqls' :=
  List.filterMap_append

theorem converted_append (sqls sqls' : List Text) :
    converted nameLead (sqls ++ sqls') = converted nameLead sqls ++ converted nameLead sqls' :=
  List.filterMap_append

theorem Written.nil : Written s nameLead [] 0 {} := ⟨rfl, rfl, Text.onLines_nil⟩

theorem Written.append {sqls sqls' : List Text} {failed failed' : Nat} {o o' : Output}
    (h : Written s nameLead sqls failed o) (h' : Written s nameLead sqls' failed' o') :
    Written s nameLead (sqls ++ sqls') (failed + failed') (o ++ o') := by
  constructor
  · rw [h.failed, h'.failed, failures_append, List.length_append]
  · rw [Output.out_append, h.out, h'.out, converted_append, List.flatMap_append]
  · rw [failures_append, List.map_append]
    exact h.err.append h'.err

/-- What a conversion logs is not counted. -/
theorem Written.log {sqls : List Text} {failed : Nat} {o : Output}
    (h : Written s nameLead sqls failed o) (events : List Log.Event) :
    Written s nameLead sqls failed (s.log events ++ o) :=
  ⟨h.failed, h.out, (s.onLines_log events).append h.err⟩

/-- **One statement**, whatever the machine has converted before. -/
theorem written_convertLine {m : Machine} (h : m.Sound nameLead) (sql : Text) :
    (convertLine s m sql).1.Sound nameLead ∧
    Written s nameLead [sql] (if (convertLine s m sql).2.1 then 1 else 0)
      (convertLine s m sql).2.2 := by
  have hanswer := h.answer sql
  rw [convertLine]
  cases hu : Converter.uncached nameLead sql with
  | ok result =>
    have hfailures : failures nameLead [sql] = [] := by simp [failures, hu]
    have hconverted : converted nameLead [sql] = [(sql, result)] := by
      simp [converted, hu, Except.toOption]
    simp only [hanswer, hu]
    refine ⟨h.convert sql, .log ⟨?_, ?_, ?_⟩ _⟩
    · rw [hfailures]
      rfl
    · rw [hconverted, List.flatMap_singleton]
    · rw [hfailures]
      exact Text.onLines_nil
  | error chain =>
    have hfailures : failures nameLead [sql] = [chain] := by simp [failures, hu]
    have hconverted : converted nameLead [sql] = [] := by simp [converted, hu, Except.toOption]
    simp only [hanswer, hu]
    refine ⟨h.convert sql, .log ⟨?_, ?_, ?_⟩ _⟩
    · rw [hfailures]
      rfl
    · rw [hconverted]
      rfl
    · rw [hfailures]
      change Text.OnLines [report s.color chain] (renderError s.color chain.message)
      rw [renderError_message]
      exact Text.onLines_singleton _

/-- **Some lines**, blank ones among them. -/
theorem written_convertLines {m : Machine} (h : m.Sound nameLead) (lines : List Text) :
    Written s nameLead (statements lines) (convertLines s m lines).2.1
      (convertLines s m lines).2.2 := by
  induction lines generalizing m with
  | nil => exact .nil
  | cons t rest ih =>
    have hstatement : (t.any fun c => !Text.isBlank c) = !Text.isBlankLine t :=
      List.not_all_eq_any_not.symm
    rw [convertLines, statements]
    cases hblank : Text.isBlankLine t with
    | true =>
      rw [hblank] at hstatement
      rw [if_pos rfl, List.filter_cons_of_neg (by simp [hstatement])]
      exact ih h
    | false =>
      rw [hblank] at hstatement
      obtain ⟨hsound, hwritten⟩ := written_convertLine (s := s) h t
      rw [if_neg Bool.false_ne_true, List.filter_cons_of_pos (by simp [hstatement])]
      have hall := hwritten.append (ih hsound)
      have hcount : (if (convertLine s m t).2.1 then 1 else 0) +
          (convertLines s (convertLine s m t).1 rest).2.1 =
          if (convertLine s m t).2.1 then (convertLines s (convertLine s m t).1 rest).2.1 + 1
          else (convertLines s (convertLine s m t).1 rest).2.1 := by
        split <;> omega
      rw [hcount] at hall
      exact hall

end Written

/-! ## 6. The program -/

/-- What the program has written for some lines: to standard output the nested form of each statement
that has one, in the order of the lines and each on a line of its own, and to standard error a report
of each other statement, in that order too and each on a line of its own. -/
structure Reports (color : Bool) (nameLead : Text) (lines : List Text) (o : Output) : Prop where
  out : o.out = (converted nameLead (statements lines)).flatMap fun x => x.2 ++ ['\n']
  outLines : o.out.splitOn '\n' = (converted nameLead (statements lines)).map (·.2) ++ [[]]
  err : Text.OnLines ((failures nameLead (statements lines)).map (report color)) o.err

/-- **The nested forms of lines stand on lines of their own.** -/
theorem splitOn_converted {nameLead : Text} (hlead : Config.isIdentifier nameLead = true)
    {sqls : List Text} (hsqls : ∀ sql ∈ sqls, '\n' ∉ sql) :
    ((converted nameLead sqls).flatMap fun x => x.2 ++ ['\n']).splitOn '\n' =
      (converted nameLead sqls).map (·.2) ++ [[]] := by
  have hlines : ((converted nameLead sqls).flatMap fun x => x.2 ++ ['\n']) =
      ((converted nameLead sqls).map (·.2)).flatMap (· ++ ['\n']) := by
    rw [List.flatMap_map]
  rw [hlines]
  refine Text.splitOn_flatMap_line fun t ht => ?_
  obtain ⟨x, hx, rfl⟩ := List.mem_map.mp ht
  obtain ⟨sql, hsql, hx⟩ := List.mem_filterMap.mp hx
  cases hu : Converter.uncached nameLead sql with
  | error chain => simp [hu, Except.toOption] at hx
  | ok out =>
    simp only [hu, Except.toOption, Option.map_some, Option.some.injEq] at hx
    subst hx
    exact Converter.newline_notMem_of_uncached hlead (hsqls sql hsql) hu

/-- What is written before and after, to standard error only, takes nothing away. -/
theorem Written.reports {s : Settings} {nameLead : Text} {lines : List Text} {failed : Nat}
    {o : Output} (h : Written s nameLead (statements lines) failed o) (hformat : s.format = .text)
    (hlead : Config.isIdentifier nameLead = true) (hlines : ∀ t ∈ lines, '\n' ∉ t)
    (events : List Log.Event) {rest : Output} (hrest : rest.out = [])
    (herr : Text.OnLines [] rest.err) :
    Reports s.color nameLead lines (s.log events ++ (o ++ rest)) := by
  have hout : (s.log events ++ (o ++ rest)).out =
      (converted nameLead (statements lines)).flatMap fun x => x.2 ++ ['\n'] := by
    rw [Output.out_append, Output.out_append, Settings.out_log, hrest, h.out, hformat]
    simp [renderResult, line]
  refine ⟨hout, ?_, ?_⟩
  · rw [hout]
    exact splitOn_converted hlead fun sql hsql => hlines sql (List.mem_of_mem_filter hsql)
  · exact (s.onLines_log events).append (h.err.append_lines herr)

@[simp] theorem out_closing (s : Settings) (verbose : Bool) (m : Machine) (failed : Nat) :
    (closing s verbose m failed).out = [] := by
  rw [closing]
  split <;> split <;> rfl

section Input

variable {s : Settings} {config : Config} {verbose : Bool} {input : List UInt8}
  {lines : List Text} (events : List Log.Event)

/-- An input whose lines are all texts. -/
theorem convertInput_of_texts (hformat : s.format = .text)
    (hlead : Config.isIdentifier config.nameLead = true)
    (hinput : Text.cutLines 0x0A 0x0D input = lines.map Text.bytes)
    (hlines : ∀ t ∈ lines, '\n' ∉ t) :
    let o := convertInput s verbose (Machine.ofConfig config) input
    Reports s.color config.nameLead lines (s.log events ++ o.output) ∧
      o.status = if failures config.nameLead (statements lines) = [] then 0 else 1 := by
  have hwritten := written_convertLines (s := s) (Machine.sound_ofConfig config) lines
  have hread : Text.readLines (Text.byteLines input) = (lines, true) := by
    rw [Text.byteLines_eq_cutLines, hinput, Text.readLines_map_bytes]
  simp only [convertInput, hread, if_true]
  refine ⟨hwritten.reports hformat hlead hlines events (out_closing s verbose _ _)
    (onLines_closing s verbose _ _), ?_⟩
  rw [hwritten.failed]
  simp only [List.length_eq_zero_iff]

/-- An input with a line that is no text. -/
theorem convertInput_of_bad (hformat : s.format = .text)
    (hlead : Config.isIdentifier config.nameLead = true) {bad : List UInt8} {rest : List (List UInt8)}
    (hinput : Text.cutLines 0x0A 0x0D input = lines.map Text.bytes ++ bad :: rest)
    (hbad : ∀ t, bad ≠ Text.bytes t) (hlines : ∀ t ∈ lines, '\n' ∉ t) :
    let o := convertInput s verbose (Machine.ofConfig config) input
    Reports s.color config.nameLead lines (s.log events ++ o.output) ∧ o.status = 1 := by
  have hwritten := written_convertLines (s := s) (Machine.sound_ofConfig config) lines
  have hread : Text.readLines (Text.byteLines input) = (lines, false) := by
    rw [Text.byteLines_eq_cutLines, hinput, Text.readLines_of_bad hbad]
  simp only [convertInput, hread, Bool.false_eq_true, if_false]
  exact ⟨hwritten.reports hformat hlead hlines events rfl (onLines_renderError s.color _), trivial⟩

end Input

/-- The lines of an input, carried out. -/
theorem perform_of_lines {world : Surroundings} {invocation : Invocation} {config : Config}
    (htask : invocation.task = .convert none)
    (hconfig : (Config.load world.files world.userDirectory invocation.configPath).value =
      .ok config) :
    ∃ s events, s.format = invocation.format ∧ s.color = world.color ∧
      perform world invocation =
        let o := convertInput s invocation.verbose (Machine.ofConfig config) world.input
        ⟨o.status, s.log events ++ o.output⟩ := by
  rw [perform]
  simp only [hconfig, htask]
  exact ⟨_, _, rfl, rfl, rfl⟩

/-- **The lines of an input are converted one by one, and as without a cache.**  The arguments ask
for no single statement and for results as text, and there is a configuration.

* Where the input is the UTF-8 form of a text, it is reported on all its lines, and the status is 0
  unless a statement among them fails, and else 1.
* Where a line of the input is no text, it is reported on the lines before the first such line and on
  no others, and the status is 1.

The cache has no part in it, nor has a line in what is reported on another. -/
theorem run_converts_lines {world : Surroundings} {arguments : List Text} {invocation : Invocation}
    {config : Config} (hread : read world.usualPath arguments = .ok invocation)
    (htask : invocation.task = .convert none) (hformat : invocation.format = .text)
    (hconfig : (Config.load world.files world.userDirectory invocation.configPath).value =
      .ok config) :
    (∀ t, world.input = Text.bytes t →
      Reports world.color config.nameLead (Text.cutLines '\n' '\r' t)
        (run world arguments).output ∧
      (run world arguments).status =
        if failures config.nameLead (statements (Text.cutLines '\n' '\r' t)) = [] then 0 else 1) ∧
    ∀ lines bad rest,
      Text.cutLines 0x0A 0x0D world.input = lines.map Text.bytes ++ bad :: rest →
      (∀ t, bad ≠ Text.bytes t) →
      Reports world.color config.nameLead lines (run world arguments).output ∧
      (run world arguments).status = 1 := by
  have hlead := Config.isIdentifier_of_load hconfig
  obtain ⟨s, events, hs, hcolor, hperform⟩ := perform_of_lines htask hconfig
  have hrun : run world arguments = perform world invocation := by rw [run, hread]
  rw [hrun, hperform, ← hcolor]
  rw [hformat] at hs
  constructor
  · intro t ht
    refine convertInput_of_texts events hs hlead (by rw [ht, Text.cutLines_bytes]) ?_
    exact fun u hu => Text.notMem_of_mem_cutLines hu
  · intro lines bad rest hinput hbad
    refine convertInput_of_bad events hs hlead hinput hbad fun u hu hc => ?_
    have hline : Text.bytes u ∈ Text.cutLines 0x0A 0x0D world.input := by
      rw [hinput]
      exact List.mem_append_left _ (List.mem_map_of_mem hu)
    exact Text.notMem_of_mem_cutLines hline ((Text.mem_bytes_iff (by decide)).mpr hc)

/-- Nothing but an input, with or without styles. -/
def piped (color : Bool) (input : List UInt8) : Surroundings where
  files := fun _ => none
  input := input
  color := color

/-- A statement twice, with a blank line and a malformed statement between. -/
def fourLines : Text :=
  "select*from a join b,c\r\n\nselect*from a join b join\nselect*from a join b,c".toList

/-- A statement, a malformed one, a line that is no text, and the malformed statement again. -/
def badThirdLine : List UInt8 :=
  Text.bytes "select 1\nselect*from a join b join\n".toList ++
    0xFF :: Text.bytes "\nselect*from a join b join\n".toList

/-- The statement is nested both times, and the malformed one changes no more than the status and
what is reported; a line that is no text ends the other input, with what has been reported so far. -/
theorem run_converts_lines_of_piped :
    (run (piped false (Text.bytes fourLines)) []).output.out =
      ("select*from (select * from a join b) as jetJoinAlias0,c\n" ++
        "select*from (select * from a join b) as jetJoinAlias0,c\n").toList ∧
    Text.OnLines [("Error: Invalid join syntax in 'a join b join': " ++
        "could not parenthesize the join block at 'b'").toList]
      (run (piped false (Text.bytes fourLines)) []).output.err ∧
    (run (piped false (Text.bytes fourLines)) []).status = 1 ∧
    (run (piped true badThirdLine) []).output.out = "select 1\n".toList ∧
    Text.OnLines [("\x1b[1;31mError:\x1b[0m Invalid join syntax in 'a join b join': " ++
        "could not parenthesize the join block at 'b'").toList]
      (run (piped true badThirdLine) []).output.err ∧
    (run (piped true badThirdLine) []).status = 1 := by
  have hread : ∀ color input, read (piped color input).usualPath [] =
      .ok ⟨none, .text, false, .convert none⟩ := fun _ _ => rfl
  have hconfig : ∀ color input, (Config.load (piped color input).files
      (piped color input).userDirectory none).value = .ok {} := fun _ _ => rfl
  obtain ⟨htexts, -⟩ := run_converts_lines (hread false (Text.bytes fourLines)) rfl rfl
    (hconfig _ _)
  obtain ⟨hreports, hstatus⟩ := htexts fourLines rfl
  obtain ⟨-, hbad⟩ := run_converts_lines (hread true badThirdLine) rfl rfl (hconfig _ _)
  have hnotext : ∀ t, [0xFF] ≠ Text.bytes t := Text.ofBytes?_eq_none_iff.mp (by decide +kernel)
  obtain ⟨hreports', hstatus'⟩ :=
    hbad ["select 1".toList, "select*from a join b join".toList] [0xFF]
      [Text.bytes "select*from a join b join".toList] (by decide +kernel) hnotext
  have hfailed : (failures "jetJoinAlias".toList
      (statements (Text.cutLines '\n' '\r' fourLines))).map (report false) =
        [("Error: Invalid join syntax in 'a join b join': " ++
          "could not parenthesize the join block at 'b'").toList] := by decide +kernel
  have hfailed' : (failures "jetJoinAlias".toList
      (statements ["select 1".toList, "select*from a join b join".toList])).map (report true) =
        [("\x1b[1;31mError:\x1b[0m Invalid join syntax in 'a join b join': " ++
          "could not parenthesize the join block at 'b'").toList] := by decide +kernel
  refine ⟨?_, ?_, ?_, ?_, ?_, hstatus'⟩
  · rw [hreports.out]
    decide +kernel
  · rw [← hfailed]
    exact hreports.err
  · rw [hstatus]
    decide +kernel
  · rw [hreports'.out]
    decide +kernel
  · rw [← hfailed']
    exact hreports'.err

end CommandLine

end NestedJoin
