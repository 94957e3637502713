import DeviceTwin.Program.Run
import DeviceTwin.Proofs.Console.Startup
import DeviceTwin.Proofs.Files.Layout
import DeviceTwin.Proofs.Program.Arguments

/-!
# The verbosity only filters the log

What a run writes, how it ends and what there is to be logged does not depend on the verbosity.  One
that the arguments ask for is in force from the first record to the last.  If they ask for none, it
is `info` up to and including the reading of the configuration, and then the one of the
configuration; if no configuration can be had, it stays `info` (`verbosity_only_filters_log`).
-/

namespace DeviceTwin

namespace Config

variable {files files' : Files.Tree} {c c' : Config}

/-- Two configurations agree in everything but the verbosity. -/
def AgreeButVerbosity (c c' : Config) : Prop := c' = { c with verbosity := c'.verbosity }

/-! ## Files with other contents -/

theorem resolve_eq_of_sameLayout (h : files.SameLayout files') (place : Surroundings)
    (explicit : Option Files.Path) :
    resolve files place explicit = resolve files' place explicit := by
  cases explicit with
  | some path => rfl
  | none => simp only [resolve, h.hasFile_eq]

theorem records_readOrDefault_of_sameLayout (h : files.SameLayout files') (path : Files.Path) :
    (readOrDefault files path).2 = (readOrDefault files' path).2 := by
  by_cases hmissing : files.read path = .error .notFound
  · have hmissing' := (h.read_eq_error_iff path .notFound).1 hmissing
    rw [readOrDefault_of_missing hmissing, readOrDefault_of_missing hmissing']
  · have hmissing' := mt (h.read_eq_error_iff path .notFound).2 hmissing
    rw [readOrDefault_of_not_missing hmissing, readOrDefault_of_not_missing hmissing']

end Config

/-- A session does not look at the verbosity of its configuration. -/
theorem Console.Session.run_of_agreeButVerbosity {c c' : Config} (h : c.AgreeButVerbosity c')
    (pieces : List Bytes) (inputEnd : InputEnd) (room : Option Nat) :
    run c' pieces inputEnd room = run c pieces inputEnd room := by
  rw [h]
  rfl

namespace Program

variable {files files' : Files.Tree} {place : Config.Surroundings} {a : Arguments}
  {pieces : List Bytes} {records : List Log.Record} {c : Config} {error : Config.Error}

/-! ## Runs that differ in what they log -/

/-- Two runs end with the same exit code and have written the same. -/
structure SameConduct (o o' : Outcome) : Prop where
  exitCode : o.exitCode = o'.exitCode
  output : o.output = o'.output

/-- A run does what a louder one does and logs, of the records of that one, those that are at least
as severe as a verbosity says, in order. -/
structure Filters (v : Log.Verbosity) (loud o : Outcome) : Prop extends SameConduct o loud where
  log : o.log = loud.log.filter fun r => r.level.rank ≤ v.rank

/-- A run does what a louder one does, and logs, of the opening of that one's log, the records that
are at least as severe as one verbosity says, and of the rest those that are at least as severe as
another one says, in order. -/
structure FiltersInTurn (first last : Log.Verbosity) (opening later : List Log.Record)
    (loud o : Outcome) : Prop extends SameConduct o loud where
  all : loud.log = opening ++ later
  log : o.log = (opening.filter fun r => r.level.rank ≤ first.rank) ++
    later.filter fun r => r.level.rank ≤ last.rank

theorem SameConduct.symm {o o' : Outcome} (h : SameConduct o o') : SameConduct o' o :=
  ⟨h.exitCode.symm, h.output.symm⟩

theorem SameConduct.trans {o o' o'' : Outcome} (h : SameConduct o o') (h' : SameConduct o' o'') :
    SameConduct o o'' :=
  ⟨h.exitCode.trans h'.exitCode, h.output.trans h'.output⟩

/-- The records of a run up to and including the reading of its configuration, where reading it
brings the given ones. -/
def openingRecords (records : List Log.Record) : List Log.Record :=
  .programStarted name version :: records

/-- The records of a run after the reading of its configuration, without what was left out. -/
def laterRecords (session : Console.Outcome) : List Log.Record :=
  session.trace.records ++ report session.ending

/-! ## What is logged -/

theorem runWith_of_error (h : configure files place a = (.error error, records)) :
    runWith files place a pieces =
      { exitCode := 1
        log := Log.keep a.firstVerbosity
          (openingRecords records ++ report (.failed (.config error))) } := by
  simp only [runWith, h, openingRecords, Log.keep_append]

theorem runWith_of_ok (h : configure files place a = (.ok c, records)) :
    runWith files place a pieces =
      { exitCode := exitCode (Console.Session.run c pieces .over none).ending
        output := (Console.Session.run c pieces .over none).output
        log := Log.keep a.firstVerbosity (openingRecords records) ++
          Log.keep (a.lastVerbosity c)
            (laterRecords (Console.Session.run c pieces .over none)) } := by
  simp only [runWith, h, openingRecords, laterRecords]

/-- Of everything that is logged at the loudest, a verbosity keeps what is severe enough. -/
theorem keep_eq_filter_keep_trace (v : Log.Verbosity) (all : List Log.Record) :
    Log.keep v all = (Log.keep .trace all).filter fun r => r.level.rank ≤ v.rank := by
  have hv : v.rank ≤ Log.Verbosity.trace.rank := by cases v <;> decide
  exact (Log.keep_keep_of_rank_le hv all).symm

/-! ## A verbosity among the arguments -/

theorem filters_runWith (files : Files.Tree) (place : Config.Surroundings) (a : Arguments)
    (pieces : List Bytes) (v : Log.Verbosity) :
    Filters v (runWith files place (a.withVerbosity (some .trace)) pieces)
      (runWith files place (a.withVerbosity (some v)) pieces) := by
  -- The configuration is found in the same place and brings the same, whatever is asked for.
  have hsame : ∀ u, configure files place (a.withVerbosity u) = configure files place a :=
    fun _ => rfl
  match hc : configure files place a with
  | (.error error, records) =>
    rw [runWith_of_error ((hsame _).trans hc), runWith_of_error ((hsame _).trans hc)]
    exact ⟨⟨rfl, rfl⟩, keep_eq_filter_keep_trace v _⟩
  | (.ok c, records) =>
    rw [runWith_of_ok ((hsame _).trans hc), runWith_of_ok ((hsame _).trans hc)]
    refine ⟨⟨rfl, rfl⟩, ?_⟩
    simp only [Arguments.firstVerbosity, Arguments.lastVerbosity, Arguments.withVerbosity,
      Option.getD_some, ← Log.keep_append]
    exact keep_eq_filter_keep_trace v _

/-- What a run is like does not depend on the value of the option, but for what is logged. -/
theorem filters_run (files : Files.Tree) (place : Config.Surroundings) (pieces : List Bytes)
    (before after : List Text) (s : Spelling) (v : Log.Verbosity) :
    Filters v (run files place (before ++ s.words .trace ++ after) pieces)
      (run files place (before ++ s.words v ++ after) pieces) := by
  have hloud := Arguments.parse_words s v .trace before after
  have hasked := Arguments.parse_words s v v before after
  simp only [run]
  rw [hloud, hasked]
  match Arguments.parse (before ++ s.words v ++ after) with
  | .error _ => exact ⟨⟨rfl, rfl⟩, rfl⟩
  | .ok .help => exact ⟨⟨rfl, rfl⟩, rfl⟩
  | .ok .version => exact ⟨⟨rfl, rfl⟩, rfl⟩
  | .ok (.run a) => exact filters_runWith files place a pieces v

/-! ## No verbosity among the arguments -/

section

variable {line : List Text}

theorem run_of_parse (hparse : Arguments.parse line = .ok (.run a)) :
    run files place line pieces = runWith files place a pieces := by
  simp only [run, hparse]

theorem run_words_append (hline : NamesNoVerbosity line)
    (hparse : Arguments.parse line = .ok (.run a)) (s : Spelling) (v : Log.Verbosity) :
    run files place (s.words v ++ line) pieces =
      runWith files place (a.withVerbosity (some v)) pieces := by
  apply run_of_parse
  rw [Arguments.parse_words_append hline, hparse]
  rfl

/-- Where there is no configuration, everything is filtered as before it was looked for. -/
theorem filters_of_error (hline : NamesNoVerbosity line)
    (hparse : Arguments.parse line = .ok (.run a))
    (h : configure files place a = (.error error, records)) (s : Spelling) :
    Filters .info (run files place (s.words .trace ++ line) pieces)
      (run files place line pieces) := by
  have hnone := Arguments.verbosity_of_parse hline hparse
  rw [run_words_append hline hparse, run_of_parse hparse, runWith_of_error h,
    runWith_of_error (a := a.withVerbosity (some .trace)) h]
  refine ⟨⟨rfl, rfl⟩, ?_⟩
  simp only [Arguments.firstVerbosity, hnone, Option.getD_none]
  exact keep_eq_filter_keep_trace .info _

/-- Where there is a configuration, it says how the records are filtered that come after it. -/
theorem filtersInTurn_of_ok (hline : NamesNoVerbosity line)
    (hparse : Arguments.parse line = .ok (.run a))
    (h : configure files place a = (.ok c, records)) (s : Spelling) :
    FiltersInTurn .info c.verbosity (openingRecords records)
      (laterRecords (Console.Session.run c pieces .over none))
      (run files place (s.words .trace ++ line) pieces) (run files place line pieces) := by
  have hnone := Arguments.verbosity_of_parse hline hparse
  rw [run_words_append hline hparse, run_of_parse hparse, runWith_of_ok h,
    runWith_of_ok (a := a.withVerbosity (some .trace)) h]
  refine ⟨⟨rfl, rfl⟩, ?_, ?_⟩
  · simp only [Arguments.firstVerbosity, Arguments.lastVerbosity, Arguments.withVerbosity,
      Option.getD_some, Log.keep_trace]
  · simp only [Arguments.firstVerbosity, Arguments.lastVerbosity, hnone, Option.getD_none]
    rfl

theorem sameConduct_of_agree (hparse : Arguments.parse line = .ok (.run a)) {c' : Config}
    {records' : List Log.Record} (h : configure files place a = (.ok c, records))
    (h' : configure files' place a = (.ok c', records')) (hagree : c.AgreeButVerbosity c') :
    SameConduct (run files place line pieces) (run files' place line pieces) := by
  rw [run_of_parse hparse, run_of_parse hparse, runWith_of_ok h, runWith_of_ok h',
    Console.Session.run_of_agreeButVerbosity hagree]
  exact ⟨rfl, rfl⟩

/-- Files with other contents bring the same records up to the reading of the configuration. -/
theorem records_configure_of_sameLayout (h : files.SameLayout files') :
    (configure files place a).2 = (configure files' place a).2 := by
  simp only [configure, Config.resolve_eq_of_sameLayout h]
  match Config.resolve files' place a.config with
  | (.error _, _) => rfl
  | (.ok path, records) =>
    exact congrArg (records ++ ·) (Config.records_readOrDefault_of_sameLayout h path)

end

/-! ## The main statement -/

/-- How much is logged decides nothing else.  Let the option ask for a verbosity, in either spelling
and among whatever other arguments.  Whatever files there are and whatever the input is, a run with
another value in its place writes the same and ends with the same exit code, and its log is, in
order, what is severe enough in the log at `trace`; at `off` it is empty.

Let no argument name the option, and let the arguments ask for a run.  If no configuration can be
had, the log is what is severe enough for `info` in the log at `trace`.  Take two trees of files
with configurations that agree in everything but the verbosity.  The runs write the same and end
with the same exit code.  After the reading of the configuration both log the same at `trace`, and
each on its own what is severe enough of that for its configuration; of what comes before, each
logs what is severe enough for `info`.  If the trees differ in nothing but what the files hold, that
is the same in both as well. -/
theorem verbosity_only_filters_log (place : Config.Surroundings) (pieces : List Bytes) :
    (∀ (files : Files.Tree) (before after : List Text) (s : Spelling) (v w : Log.Verbosity),
      let asked u := run files place (before ++ s.words u ++ after) pieces
      Filters v (asked .trace) (asked v) ∧ SameConduct (asked v) (asked w) ∧
        (asked .off).log = []) ∧
    ∀ (line : List Text) (a : Arguments) (s : Spelling), NamesNoVerbosity line →
      Arguments.parse line = .ok (.run a) →
      let plain files := run files place line pieces
      let loud files := run files place (s.words .trace ++ line) pieces
      (∀ files error records, configure files place a = (.error error, records) →
        Filters .info (loud files) (plain files)) ∧
      ∀ files files' c c' records records', configure files place a = (.ok c, records) →
        configure files' place a = (.ok c', records') → c.AgreeButVerbosity c' →
        SameConduct (plain files) (plain files') ∧
        (∃ later,
          FiltersInTurn .info c.verbosity (openingRecords records) later (loud files)
            (plain files) ∧
          FiltersInTurn .info c'.verbosity (openingRecords records') later (loud files')
            (plain files')) ∧
        (files.SameLayout files' → records = records') := by
  constructor
  · intro files before after s v w asked
    have hfilters : ∀ u, Filters u (asked .trace) (asked u) :=
      filters_run files place pieces before after s
    refine ⟨hfilters v, (hfilters v).toSameConduct.trans (hfilters w).toSameConduct.symm, ?_⟩
    rw [(hfilters .off).log]
    exact Log.keep_off _
  · intro line a s hline hparse plain loud
    constructor
    · intro files error records h
      exact filters_of_error hline hparse h s
    · intro files files' c c' records records' h h' hagree
      refine ⟨sameConduct_of_agree hparse h h' hagree, ?_, ?_⟩
      · have hsession := Console.Session.run_of_agreeButVerbosity hagree pieces .over none
        refine ⟨_, filtersInTurn_of_ok hline hparse h s, ?_⟩
        rw [← hsession]
        exact filtersInTurn_of_ok hline hparse h' s
      · intro hlayout
        have hrecords : (configure files place a).2 = (configure files' place a).2 :=
          records_configure_of_sameLayout hlayout
        rwa [h, h'] at hrecords

/-- A file that says `warn` is written anew with the same settings, but with `debug`; a third one is
cut short.  The only line of the input is rejected. -/
theorem verbosity_only_filters_log_rewritten :
    let files text := ({} : Files.Tree).put ["c".toList] (.file (Utf8.encode (String.toList text)))
    let quiet := files "\x7b\"logLevel\":\"warn\",\"connectOnLaunch\":true\x7d"
    let noisy := files "\x7b\"connectOnLaunch\":true,\"logLevel\":\"debug\"\x7d"
    let broken := files "\x7b"
    let place : Config.Surroundings := { besideProgram := "p".toList, home := none }
    let pieces := [Utf8.encode "fly\n".toList]
    let line := ["--config".toList, "c".toList]
    let loud := Spelling.apart.words .trace ++ line
    let records := [Log.Record.configChosen "c".toList]
    (NamesNoVerbosity line ∧ quiet.SameLayout noisy ∧
      (run quiet place line pieces).log = [.programStarted name version, .configChosen "c".toList,
        .lineRejected "fly".toList (Console.CommandError.unknown "fly".toList).message] ∧
      (run broken place line pieces).log = [.programStarted name version, .configChosen "c".toList,
        .programFailed (Console.Failure.config
          (.json ⟨.endInObject, ⟨1, 1⟩⟩)).message]) ∧
      Filters .info (run broken place loud pieces) (run broken place line pieces) ∧
      SameConduct (run quiet place line pieces) (run noisy place line pieces) ∧
      ∃ later,
        FiltersInTurn .info .warn (openingRecords records) later (run quiet place loud pieces)
          (run quiet place line pieces) ∧
        FiltersInTurn .info .debug (openingRecords records) later (run noisy place loud pieces)
          (run noisy place line pieces) := by
  intro files quiet noisy broken place pieces line loud records
  have hline : NamesNoVerbosity line := by
    intro word hword value hlong
    simp only [line, List.mem_cons, List.not_mem_nil, or_false] at hword
    obtain rfl | rfl := hword
    · exact absurd (Word.long.inj hlong).1 (by decide)
    · cases hlong
  have hparse : Arguments.parse line = .ok (.run { config := some "c".toList }) := by decide
  have hquiet : configure quiet place { config := some "c".toList } =
      (.ok { connectOnLaunch := true, verbosity := .warn }, records) := by decide +kernel
  have hnoisy : configure noisy place { config := some "c".toList } =
      (.ok { connectOnLaunch := true, verbosity := .debug }, records) := by decide +kernel
  have hbroken : configure broken place { config := some "c".toList } =
      (.error (.json ⟨.endInObject, ⟨1, 1⟩⟩), records) := by decide +kernel
  obtain ⟨-, hplain⟩ := verbosity_only_filters_log place pieces
  obtain ⟨herror, hok⟩ := hplain line _ .apart hline hparse
  obtain ⟨hconduct, hlater, -⟩ := hok quiet noisy _ _ _ _ hquiet hnoisy rfl
  refine ⟨⟨hline, Files.Tree.sameLayout_put_file _ _ _ _, ?_, ?_⟩, herror broken _ _ hbroken,
    hconduct, hlater⟩
  · decide +kernel
  · decide +kernel

end Program

end DeviceTwin
