import CollectionRunner.Proofs.Duration
import CollectionRunner.Proofs.Json.Accepts
import CollectionRunner.Proofs.Json.ReadBack
import CollectionRunner.Run.Report

/-!
# Reports and collections read back

What a document is read as follows from the codecs of its parts: for each part one lemma `reads`,
in the order of the definitions.  The numbers of a report have to fit the fields that hold them
(`Fits`).  Those of a report that was read fit already, by the lemmas `yields`, but for its doubles,
the times of its scripts and its moments (`Tame`).  Only the times that scripts took are rounded on
the way, so a report comes back as one that is `Near`, and as itself when no script took six days
(`RunReport.Near.eq_of_short`).  Folders need as many levels of codecs as they are deep, and more
levels change nothing (`Folder.encode_below`).  Main statement: `documents_read_back`.
-/

namespace CollectionRunner

/-! ## Errors -/

namespace TransportError

/-- The number in it fits its field. -/
def Fits : TransportError → Prop
  | timeout ms => ms < wordBound
  | _ => True

theorem reads_message (m : String) : messageRecord.Reads m m :=
  .map (.cons (.required (.string m)) .nil) rfl

theorem reads {e : TransportError} (fits : e.Fits) : codec.Reads e e := by
  cases e with
  | timeout ms =>
    exact .tagged rfl rfl (.ofRecord rfl (.map (.cons (.required (.natural fits)) .nil) rfl) rfl
      (by decide) (by decide))
  | network m =>
    exact .tagged rfl rfl (.ofRecord rfl (reads_message m) rfl (by decide) (by decide))
  | invalidRequest m =>
    exact .tagged rfl rfl (.ofRecord rfl (reads_message m) rfl (by decide) (by decide))

theorem yields : codec.Yields Fits := by
  have message : messageRecord.Yields fun _ => True := fun _ _ _ => trivial
  refine .tagged ?_
  rw [List.forall_mem_cons, List.forall_mem_cons, List.forall_mem_singleton]
  exact ⟨.ofRecord (.map (.cons (.required (.natural 64)) .nil) fun _ h => h.1) fun _ h => h,
    .ofRecord message fun _ _ => trivial, .ofRecord message fun _ _ => trivial⟩

/-- Its tag and fields leave the name `source` free. -/
theorem encode_eq (e : TransportError) :
    ∃ fields, codec.encode e = .object fields ∧ "source" ∉ fields.map Prod.fst := by
  cases e with
  | timeout => exact ⟨_, rfl, (by decide : "source" ∉ ["type", "timeout_ms"])⟩
  | network => exact ⟨_, rfl, (by decide : "source" ∉ ["type", "message"])⟩
  | invalidRequest => exact ⟨_, rfl, (by decide : "source" ∉ ["type", "message"])⟩

end TransportError

namespace ScriptError

/-- The numbers in it fit their fields. -/
def Fits : ScriptError → Prop
  | badSyntax _ line column => (∀ n ∈ line, n < wordBound) ∧ ∀ n ∈ column, n < wordBound
  | execution _ line column => (∀ n ∈ line, n < wordBound) ∧ ∀ n ∈ column, n < wordBound
  | timeout budgetMs => budgetMs < wordBound
  | internal _ => True

theorem reads_placed {message : String} {line column : Option Nat}
    (lineFits : ∀ n ∈ line, n < wordBound) (columnFits : ∀ n ∈ column, n < wordBound) :
    placedRecord.Reads (message, line, column) (message, line, column) :=
  .map (.cons (.required (.string _)) (.cons (.nullable fun n mem => .natural (lineFits n mem))
    (.cons (.nullable fun n mem => .natural (columnFits n mem)) .nil))) rfl

/-- Every error of a script is read back from its own form, told by its kind. -/
theorem reads {e : ScriptError} (fits : e.Fits) : codec.Reads e e := by
  cases e with
  | badSyntax m l c =>
    exact .tagged rfl rfl (.ofRecord rfl (reads_placed fits.1 fits.2) rfl (by decide)
      (by decide))
  | execution m l c =>
    exact .tagged rfl rfl (.ofRecord rfl (reads_placed fits.1 fits.2) rfl (by decide)
      (by decide))
  | timeout ms =>
    exact .tagged rfl rfl (.ofRecord rfl (.map (.cons (.required (.natural fits)) .nil) rfl) rfl
      (by decide) (by decide))
  | internal m =>
    exact .tagged rfl rfl (.ofRecord rfl (TransportError.reads_message m) rfl (by decide)
      (by decide))

theorem yields_placed : placedRecord.Yields fun (_, line, column) =>
    (∀ n ∈ line, n < wordBound) ∧ ∀ n ∈ column, n < wordBound :=
  .map (.cons (.required (.any _)) (.cons (.nullable (.natural 64))
    (.cons (.nullable (.natural 64)) .nil))) fun _ ⟨_, line, column, _⟩ => ⟨line, column⟩

theorem yields : codec.Yields Fits := by
  refine .tagged ?_
  rw [List.forall_mem_cons, List.forall_mem_cons, List.forall_mem_cons, List.forall_mem_singleton]
  exact ⟨.ofRecord yields_placed fun _ h => h, .ofRecord yields_placed fun _ h => h,
    .ofRecord (.map (.cons (.required (.natural 64)) .nil) fun _ h => h.1) fun _ h => h,
    .ofRecord (P := fun _ => True) (fun _ _ _ => trivial) fun _ _ => trivial⟩

end ScriptError

theorem ScriptPhase.reads (phase : ScriptPhase) : ScriptPhase.codec.Reads phase phase :=
  .choice (by cases phase <;> rfl)

namespace RequestError

/-- The numbers in it fit their fields. -/
def Fits : RequestError → Prop
  | transport e => e.Fits
  | script _ e => e.Fits

theorem reads {e : RequestError} (fits : e.Fits) : codec.Reads e e := by
  cases e with
  | transport e =>
    obtain ⟨fields, written, apart⟩ := e.encode_eq
    exact .tagged rfl rfl (.ofCodec rfl (TransportError.reads fits) rfl written apart)
  | script phase e =>
    exact .tagged rfl rfl (.ofRecord rfl (.map (.cons (.required phase.reads)
      (.cons (.required (ScriptError.reads fits)) .nil)) rfl) rfl (by decide) (by decide))

theorem yields : codec.Yields Fits := by
  refine .tagged ?_
  rw [List.forall_mem_cons, List.forall_mem_singleton]
  exact ⟨.ofCodec TransportError.yields fun _ h => h,
    .ofRecord (.map (.cons (.required (.any _)) (.cons (.required ScriptError.yields) .nil))
      fun _ h => h.2.1) fun _ h => h⟩

end RequestError

/-! ## Requests and responses -/

theorem Header.reads (h : Header) : Header.record.codec.Reads h h :=
  .record (.titled (.map (.cons (.required (.string _)) (.cons (.required (.string _)) .nil)) rfl))
    (by decide)

namespace Response

/-- The numbers fit their fields. -/
structure Fits (r : Response) : Prop where
  status : r.status < Number.twoTo 16
  elapsedMs : Number.finite r.elapsedMs = true

theorem reads {r : Response} (fits : r.Fits) : record.codec.Reads r r :=
  .record (.map (.cons (.required (.natural fits.status)) (.cons (.required (.string _))
    (.cons (.required (.list fun h _ => h.reads)) (.cons (.required (.string _))
      (.cons (.required (.double fits.elapsedMs)) .nil))))) rfl) (by decide)

theorem yields : record.codec.Yields fun r => Number.finite r.elapsedMs = true → r.Fits :=
  .record (.map (.cons (.required (.natural 16)) (.cons (.required (.any _))
    (.cons (.required (.any _)) (.cons (.required (.any _)) (.cons (.required (.any _)) .nil)))))
    fun _ ⟨status, _⟩ finite => ⟨status, finite⟩)

end Response

theorem RequestInfo.reads (i : RequestInfo) : RequestInfo.record.codec.Reads i i :=
  .record (.map (.cons (.required (.string _)) (.cons (.required (.string _))
    (.cons (.required (.string _)) (.cons (.required (.string _)) .nil)))) rfl)
    (by decide)

/-! ## Results of scripts -/

namespace Duration

theorem reads_whole {d : Duration} (fits : ∃ ms < wordBound, d = .ofMilliseconds ms) :
    wholeCodec.Reads d d := by
  obtain ⟨ms, word, rfl⟩ := fits
  have back : wordMilliseconds (.ofMilliseconds ms) = ms := by
    rw [wordMilliseconds, milliseconds, ofMilliseconds, Nat.mul_div_cancel ms (by decide),
      Nat.mod_eq_of_lt word]
  refine .map (a := ms) ?_ rfl
  rw [back]
  exact .natural word

theorem yields_whole : wholeCodec.Yields fun d => ∃ ms < wordBound, d = .ofMilliseconds ms :=
  .map (.natural 64) fun ms word => ⟨ms, word, rfl⟩

theorem exists_reads_fractional {d : Duration} (short : d.Short) :
    ∃ d', fractionalCodec.Reads d d' ∧ d.Near d' := by
  obtain ⟨d', read, near⟩ := exists_ofFractional? short
  obtain ⟨_, holds, -⟩ := holds_fractional short
  refine ⟨d', ⟨holds.finite, nofun, ?_⟩, near⟩
  simp only [fractionalCodec, Codec.double, bind, Except.bind, read]
  rfl

end Duration

theorem Change.reads (change : Change) : Change.record.codec.Reads change change :=
  .record (.map (.cons (.required (.choice (by cases change.kind <;> rfl)))
    (.cons (.required (.string _)) (.cons (.optionalNamed fun s _ => .string s)
      (.cons (.optionalNamed fun s _ => .string s) .nil)))) rfl) (by decide)

theorem ConsoleEntry.reads (entry : ConsoleEntry) : ConsoleEntry.record.codec.Reads entry entry :=
  .record (.map (.cons (.required (.choice (by cases entry.level <;> rfl)))
    (.cons (.required (.string _)) .nil)) rfl) (by decide)

theorem AssertionResult.reads (result : AssertionResult) :
    AssertionResult.record.codec.Reads result result :=
  .record (.map (.cons (.required (.string _)) (.cons (.required (.bool _))
    (.cons (.optional fun s _ => .string s) (.cons (.optional fun s _ => .string s)
      (.cons (.defaulted (.string _)) .nil))))) rfl) (by decide)

namespace ScriptResult

/-- The time that the script took is less than `2 ^ 63` seconds, and its error fits. -/
structure Fits (r : ScriptResult) : Prop where
  duration : r.duration.Short
  error : ∀ e ∈ r.error, e.Fits

/-- The results are the same but for the roundings of the time that the script took. -/
structure Near (a b : ScriptResult) : Prop where
  duration : a.duration.Near b.duration
  same : { b with duration := a.duration } = a

/-- The proviso is empty for scripts that took less than six days. -/
theorem Near.eq_of_short {a b : ScriptResult} (near : a.Near b)
    (short : a.duration.nanoseconds < 2 ^ 49) : b = a := by
  have same := near.same
  rwa [← near.duration.eq_of_short short] at same

theorem eq_of_short {a b : Option ScriptResult} (near : Option.Rel Near a b)
    (short : ∀ script ∈ a, script.duration.nanoseconds < 2 ^ 49) : b = a := by
  cases near with
  | none => rfl
  | some near => exact congrArg some (near.eq_of_short (short _ rfl))

/-- A script result is read back up to its duration, which double rounding may have moved. -/
theorem exists_reads {r : ScriptResult} (fits : r.Fits) :
    ∃ r', record.codec.Reads r r' ∧ r.Near r' := by
  obtain ⟨d, reads, near⟩ := Duration.exists_reads_fractional fits.duration
  refine ⟨{ r with duration := d }, ?_, near, rfl⟩
  exact .record (.map (.cons (.required (.bool _)) (.cons (.required reads)
    (.cons (.optional fun e mem => ScriptError.reads (fits.error e mem))
      (.cons (.defaulted (.list fun e _ => e.reads)) (.cons (.defaulted (.list fun a _ => a.reads))
        (.cons (.defaulted (.list fun c _ => c.reads))
          (.cons (.defaulted (.list fun c _ => c.reads))
            (.cons (.defaulted (.bool _)) .nil)))))))) rfl) (by decide)

theorem yields : record.codec.Yields fun r => r.duration.Short → r.Fits :=
  .record (.map (.cons (.required (.any _)) (.cons (.required (.any _))
    (.cons (.optional ScriptError.yields) (.cons (.defaulted (.any _) trivial)
      (.cons (.defaulted (.any _) trivial) (.cons (.defaulted (.any _) trivial)
        (.cons (.defaulted (.any _) trivial) (.cons (.defaulted (.any _) trivial) .nil))))))))
    fun _ ⟨_, _, error, _⟩ short => ⟨short, error⟩)

end ScriptResult

/-! ## Results of requests -/

namespace RequestResult

/-- The numbers of a result and of its parts fit their fields. -/
structure Fits (r : RequestResult) : Prop where
  index : r.index < wordBound
  response : ∀ response ∈ r.response, response.Fits
  preScript : ∀ script ∈ r.preScript, script.Fits
  postScript : ∀ script ∈ r.postScript, script.Fits
  error : ∀ e ∈ r.error, e.Fits
  durationMs : Number.finite r.durationMs = true

/-- The results are the same but for the roundings of the times that their scripts took. -/
structure Near (a b : RequestResult) : Prop where
  preScript : Option.Rel ScriptResult.Near a.preScript b.preScript
  postScript : Option.Rel ScriptResult.Near a.postScript b.postScript
  same : { b with preScript := a.preScript, postScript := a.postScript } = a

theorem mem_scripts_of_preScript {r : RequestResult} {script : ScriptResult}
    (mem : script ∈ r.preScript) : script ∈ r.scripts :=
  List.mem_append_left _ (Option.mem_toList.mpr mem)

theorem mem_scripts_of_postScript {r : RequestResult} {script : ScriptResult}
    (mem : script ∈ r.postScript) : script ∈ r.scripts :=
  List.mem_append_right _ (Option.mem_toList.mpr mem)

theorem Near.eq_of_short {a b : RequestResult} (near : a.Near b)
    (short : ∀ script ∈ a.scripts, script.duration.nanoseconds < 2 ^ 49) : b = a := by
  have pre := ScriptResult.eq_of_short near.preScript fun script mem =>
    short script (mem_scripts_of_preScript mem)
  have post := ScriptResult.eq_of_short near.postScript fun script mem =>
    short script (mem_scripts_of_postScript mem)
  have same := near.same
  rwa [← pre, ← post] at same

/-- A result is read back up to the times of its two scripts. -/
theorem exists_reads {r : RequestResult} (fits : r.Fits) :
    ∃ r', record.codec.Reads r r' ∧ r.Near r' := by
  obtain ⟨pre, preReads, preNear⟩ := Field.Reads.exists_optional
    fun script mem => ScriptResult.exists_reads (fits.preScript script mem)
  obtain ⟨post, postReads, postNear⟩ := Field.Reads.exists_optional
    fun script mem => ScriptResult.exists_reads (fits.postScript script mem)
  refine ⟨{ r with preScript := pre, postScript := post }, ?_, preNear, postNear, rfl⟩
  exact .record (.map (.cons (.required (.natural fits.index)) (.cons (.required r.info.reads)
    (.cons (.required (.choice (by cases r.status <;> rfl)))
      (.cons (.optional fun response mem => Response.reads (fits.response response mem))
        (.cons (preReads _) (.cons (postReads _)
          (.cons (.optional fun e mem => RequestError.reads (fits.error e mem))
            (.cons (.required (.double fits.durationMs)) .nil)))))))) rfl) (by decide)

/-- The doubles of a result are finite, and its scripts took less than `2 ^ 63` seconds. -/
structure Tame (r : RequestResult) : Prop where
  response : ∀ response ∈ r.response, Number.finite response.elapsedMs = true
  scripts : ∀ script ∈ r.scripts, script.duration.Short
  durationMs : Number.finite r.durationMs = true

/-- A result that was read fits the fields it is written to. -/
theorem yields : record.codec.Yields fun r => r.Tame → r.Fits := by
  refine .record (.map (.cons (.required (.natural 64)) (.cons (.required (.any _))
    (.cons (.required (.any _)) (.cons (.optional Response.yields)
      (.cons (.optional ScriptResult.yields) (.cons (.optional ScriptResult.yields)
        (.cons (.optional RequestError.yields) (.cons (.required (.any _)) .nil))))))))
    fun _ ⟨index, _, _, response, pre, post, error, _⟩ tame => ?_)
  exact {
    index := index
    response := fun x mem => response x mem (tame.response x mem)
    preScript := fun x mem => pre x mem (tame.scripts x (mem_scripts_of_preScript mem))
    postScript := fun x mem => post x mem (tame.scripts x (mem_scripts_of_postScript mem))
    error := error
    durationMs := tame.durationMs }

end RequestResult

/-! ## Runs -/

theorem Moment.reads {m : Moment} (survives : Moment.read m.text = some m) :
    Moment.codec.Reads m m := by
  refine ⟨trivial, nofun, ?_⟩
  simp only [Moment.codec, Codec.string, bind, Except.bind, survives]
  rfl

namespace RunConfig

/-- The numbers fit their fields, and the timeouts are whole milliseconds. -/
structure Fits (c : RunConfig) : Prop where
  delayMs : c.delayMs < wordBound
  requestTimeout : ∃ ms < wordBound, c.requestTimeout = .ofMilliseconds ms
  scriptTimeout : ∃ ms < wordBound, c.scriptTimeout = .ofMilliseconds ms

theorem reads {c : RunConfig} (fits : c.Fits) : record.codec.Reads c c :=
  .record (.titled (.map (.cons (.defaulted (.bool _)) (.cons (.defaulted (.natural fits.delayMs))
    (.cons (.defaulted (Duration.reads_whole fits.requestTimeout))
      (.cons (.defaulted (Duration.reads_whole fits.scriptTimeout)) .nil)))) rfl))
    (by decide)

theorem yields : record.codec.Yields Fits :=
  .record (.titled (.map (.cons (.defaulted (.any _) trivial)
    (.cons (.defaulted (.natural 64) (by decide))
      (.cons (.defaulted Duration.yields_whole ⟨30000, by decide, rfl⟩)
        (.cons (.defaulted Duration.yields_whole ⟨5000, by decide, rfl⟩) .nil))))
    fun _ ⟨_, delay, request, script, _⟩ => ⟨delay, request, script⟩))

end RunConfig

namespace SessionInfo

/-- The numbers fit their fields, and the moments are those that documents hold. -/
structure Fits (i : SessionInfo) : Prop where
  config : i.config.Fits
  totalRequests : i.totalRequests < wordBound
  startedAt : ∀ m ∈ i.startedAt, Moment.read m.text = some m
  finishedAt : ∀ m ∈ i.finishedAt, Moment.read m.text = some m

theorem reads {i : SessionInfo} (fits : i.Fits) : record.codec.Reads i i :=
  .record (.map (.cons (.required (.string _)) (.cons (.required (.string _))
    (.cons (.optional fun s _ => .string s) (.cons (.optional fun s _ => .string s)
      (.cons (.required (.choice (by cases i.status <;> rfl)))
        (.cons (.required (RunConfig.reads fits.config))
          (.cons (.required (.natural fits.totalRequests))
            (.cons (.optional fun m mem => Moment.reads (fits.startedAt m mem))
              (.cons (.optional fun m mem => Moment.reads (fits.finishedAt m mem))
                .nil))))))))) rfl) (by decide)

/-- The moments are those that documents hold. -/
structure Tame (i : SessionInfo) : Prop where
  startedAt : ∀ m ∈ i.startedAt, Moment.read m.text = some m
  finishedAt : ∀ m ∈ i.finishedAt, Moment.read m.text = some m

theorem yields : record.codec.Yields fun i => i.Tame → i.Fits :=
  .record (.map (.cons (.required (.any _)) (.cons (.required (.any _))
    (.cons (.optional (.any _)) (.cons (.optional (.any _)) (.cons (.required (.any _))
      (.cons (.required RunConfig.yields) (.cons (.required (.natural 64))
        (.cons (.optional (.any _)) (.cons (.optional (.any _)) .nil)))))))))
    fun _ ⟨_, _, _, _, _, config, total, _⟩ tame =>
      ⟨config, total, tame.startedAt, tame.finishedAt⟩)

end SessionInfo

namespace RunSummary

/-- The numbers fit their fields. -/
structure Fits (s : RunSummary) : Prop where
  totalRequests : s.totalRequests < wordBound
  completedRequests : s.completedRequests < wordBound
  passed : s.passed < wordBound
  failed : s.failed < wordBound
  errors : s.errors < wordBound
  skipped : s.skipped < wordBound
  passedAssertions : s.passedAssertions < wordBound
  failedAssertions : s.failedAssertions < wordBound
  totalDurationMs : Number.finite s.totalDurationMs = true

theorem reads {s : RunSummary} (fits : s.Fits) : record.codec.Reads s s :=
  .record (.map (.cons (.required (.natural fits.totalRequests))
    (.cons (.required (.natural fits.completedRequests)) (.cons (.required (.natural fits.passed))
      (.cons (.required (.natural fits.failed)) (.cons (.required (.natural fits.errors))
        (.cons (.required (.natural fits.skipped))
          (.cons (.required (.natural fits.passedAssertions))
            (.cons (.required (.natural fits.failedAssertions))
              (.cons (.required (.double fits.totalDurationMs)) .nil))))))))) rfl)
    (by decide)

theorem yields :
    record.codec.Yields fun s => Number.finite s.totalDurationMs = true → s.Fits :=
  .record (.map (.cons (.required (.natural 64)) (.cons (.required (.natural 64))
    (.cons (.required (.natural 64)) (.cons (.required (.natural 64))
      (.cons (.required (.natural 64)) (.cons (.required (.natural 64))
        (.cons (.required (.natural 64)) (.cons (.required (.natural 64))
          (.cons (.required (.any _)) .nil)))))))))
    fun _ ⟨total, completed, passed, failed, errors, skipped, passedA, failedA, _⟩ finite =>
      ⟨total, completed, passed, failed, errors, skipped, passedA, failedA, finite⟩)

end RunSummary

namespace RunReport

/-- The numbers of a report fit their fields, and its moments are those that documents hold. -/
structure Fits (r : RunReport) : Prop where
  session : r.session.Fits
  summary : r.summary.Fits
  results : ∀ result ∈ r.results, result.Fits

/-- The reports are the same but for the roundings of the times that scripts took. -/
structure Near (a b : RunReport) : Prop where
  session : b.session = a.session
  summary : b.summary = a.summary
  results : List.Forall₂ RequestResult.Near a.results b.results

/-- A report comes back as it was when no script took six days. -/
theorem Near.eq_of_short {a b : RunReport} (near : a.Near b)
    (short : ∀ result ∈ a.results, ∀ script ∈ result.scripts,
      script.duration.nanoseconds < 2 ^ 49) : b = a := by
  have same : b.results = a.results := by
    have each := near.results
    generalize a.results = results, b.results = results' at each short
    induction each with
    | nil => rfl
    | cons first _ ih =>
      have head := first.eq_of_short (short _ List.mem_cons_self)
      have tail := ih fun result mem => short result (List.mem_cons_of_mem _ mem)
      rw [head, tail]
  calc b = ⟨b.session, b.summary, b.results⟩ := rfl
    _ = ⟨a.session, a.summary, a.results⟩ := by rw [near.session, near.summary, same]

theorem exists_reads {r : RunReport} (fits : r.Fits) :
    ∃ r', record.codec.Reads r r' ∧ r.Near r' := by
  obtain ⟨results, reads, near⟩ := Codec.Reads.exists_list fun result mem =>
    RequestResult.exists_reads (fits.results result mem)
  refine ⟨{ r with results := results }, ?_, rfl, rfl, near⟩
  exact .record (.map (.cons (.required (SessionInfo.reads fits.session))
    (.cons (.required (RunSummary.reads fits.summary)) (.cons (.required reads) .nil))) rfl)
    (by decide)

/-- The doubles of a report are finite, its scripts took less than `2 ^ 63` seconds, and its moments
are those that documents hold. -/
structure Tame (r : RunReport) : Prop where
  session : r.session.Tame
  summary : Number.finite r.summary.totalDurationMs = true
  results : ∀ result ∈ r.results, result.Tame

theorem yields : record.codec.Yields fun r => r.Tame → r.Fits :=
  .record (.map (.cons (.required SessionInfo.yields) (.cons (.required RunSummary.yields)
    (.cons (.required (.list RequestResult.yields)) .nil)))
    fun _ ⟨session, summary, results, _⟩ tame => ⟨session tame.session, summary tame.summary,
      fun result mem => results result mem (tame.results result mem)⟩)

end RunReport

/-! ## Collections -/

theorem RequestItem.reads (item : RequestItem) : RequestItem.record.codec.Reads item item :=
  .record (.titled (.map (.cons (.defaulted (.string _)) (.cons (.required (.string _))
    (.cons (.defaulted (.string _)) (.cons (.required (.string _))
      (.cons (.defaulted (.list fun h _ => h.reads)) (.cons (.optional fun s _ => .string s)
        (.cons (.optional fun s _ => .string s)
          (.cons (.optional fun s _ => .string s) .nil)))))))) rfl)) (by decide)

namespace Folder

theorem depth_le_depthAll {f : Folder} {folders : List Folder} (mem : f ∈ folders) :
    f.depth ≤ depthAll folders := by
  induction folders with
  | nil => cases mem
  | cons first rest ih =>
    rw [depthAll]
    rcases List.mem_cons.mp mem with rfl | mem
    · exact Nat.le_max_left _ _
    · exact Nat.le_trans (ih mem) (Nat.le_max_right _ _)

theorem wellNamed (sub : Codec Folder) : Record.WellNamed (record sub).names :=
  (by decide : Record.WellNamed [["name"], ["requests"], ["folders"]])

theorem encode_eq (levels : Nat) (name : String) (requests : List RequestItem)
    (folders : List Folder) :
    (codecBelow (levels + 1)).encode ⟨name, requests, folders⟩ =
      .object [("name", .string name), ("requests", RequestItem.record.codec.list.encode requests),
        ("folders", .array (folders.map (codecBelow levels).encode))] := rfl

/-- The levels below a folder are enough for its subfolders. -/
theorem depth_le_of_mem {f : Folder} {levels : Nat} {name : String} {requests : List RequestItem}
    {folders : List Folder} (deep : depth ⟨name, requests, folders⟩ ≤ levels + 1)
    (mem : f ∈ folders) : f.depth ≤ levels := by
  rw [depth] at deep
  exact Nat.le_trans (depth_le_depthAll mem) (Nat.le_of_succ_le_succ deep)

theorem not_depth_le_zero (f : Folder) : ¬ f.depth ≤ 0 := by
  obtain ⟨name, requests, folders⟩ := f
  rw [depth]
  exact Nat.not_succ_le_zero _

/-- Codecs with enough levels read a folder back, by induction on the levels. -/
theorem reads_below {levels : Nat} {f : Folder} (deep : f.depth ≤ levels) :
    (codecBelow levels).Reads f f := by
  induction levels generalizing f with
  | zero => exact absurd deep f.not_depth_le_zero
  | succ levels ih =>
    obtain ⟨name, requests, folders⟩ := f
    have sub (g) (mem : g ∈ folders) : (codecBelow levels).Reads g g :=
      ih (depth_le_of_mem deep mem)
    exact .record (.titled (.map (.cons (.required (.string _))
      (.cons (.defaulted (.list fun item _ => item.reads)) (.cons (.defaulted (.list sub)) .nil)))
      rfl)) (wellNamed _)

theorem encode_succ {levels : Nat} {f : Folder} (deep : f.depth ≤ levels) :
    (codecBelow (levels + 1)).encode f = (codecBelow levels).encode f := by
  induction levels generalizing f with
  | zero => exact absurd deep f.not_depth_le_zero
  | succ levels ih =>
    obtain ⟨name, requests, folders⟩ := f
    rw [encode_eq, encode_eq, List.map_congr_left fun g mem => ih (depth_le_of_mem deep mem)]

/-- More levels than there are do not change what is written. -/
theorem encode_below {levels : Nat} {f : Folder} (deep : f.depth ≤ levels) :
    (codecBelow levels).encode f = codec.encode f := by
  induction deep with
  | refl => rfl
  | step deep ih => exact (encode_succ deep).trans ih

theorem depthAll_le_heightItems {folders : List Folder} {c : Codec Folder}
    (each : ∀ g ∈ folders, g.depth ≤ (c.encode g).height) :
    depthAll folders ≤ Json.heightItems (folders.map c.encode) := by
  induction folders with
  | nil => exact Nat.le_refl 0
  | cons first rest ih =>
    rw [depthAll, List.map_cons, Json.heightItems]
    exact max_le_max (each first List.mem_cons_self) (ih fun g mem =>
      each g (List.mem_cons_of_mem _ mem))

/-- What is written has a level for each level of folders. -/
theorem depth_le_height {levels : Nat} {f : Folder} (deep : f.depth ≤ levels) :
    f.depth ≤ ((codecBelow levels).encode f).height := by
  induction levels generalizing f with
  | zero => exact absurd deep f.not_depth_le_zero
  | succ levels ih =>
    obtain ⟨name, requests, folders⟩ := f
    have inner := depthAll_le_heightItems fun g mem => ih (depth_le_of_mem deep mem)
    rw [encode_eq, depth]
    simp only [Json.height, Json.heightFields]
    omega

theorem reads (f : Folder) : codec.Reads f f := by
  have below := reads_below (Nat.le_refl f.depth)
  have high : f.depth ≤ (codec.encode f).height := depth_le_height (Nat.le_refl _)
  have read := (reads_below high).read
  rw [encode_below high] at read
  exact ⟨below.plain, below.notNull, read⟩

end Folder

theorem Collection.reads (c : Collection) : record.codec.Reads c c :=
  .record (.titled (.map (.cons (.required (.string _)) (.cons (.optional fun s _ => .string s)
    (.cons (.defaulted (.list fun item _ => item.reads))
      (.cons (.defaulted (.list fun f _ => f.reads)) .nil)))) rfl)) (by decide)

/-! ## Documents -/

/-- A report that fits its document comes back from it, but for the roundings of the times that
scripts took, and a collection comes back as it was.  So what is read from a document is read again
from the document that is written of it. -/
theorem documents_read_back :
    (∀ r : RunReport, r.Fits → (RunReport.record.codec.encode r).Plain ∧
      ∃ r', RunReport.record.codec.decode (RunReport.record.codec.encode r) = .ok r' ∧ r.Near r') ∧
    (∀ c : Collection, (Collection.record.codec.encode c).Plain ∧
      Collection.record.codec.decode (Collection.record.codec.encode c) = .ok c) ∧
    (∀ json r, RunReport.record.codec.decode json = .ok r → r.Tame →
      ∃ r', RunReport.record.codec.decode (RunReport.record.codec.encode r) = .ok r' ∧ r.Near r') ∧
    ∀ json c, Collection.record.codec.decode json = .ok c →
      Collection.record.codec.decode (Collection.record.codec.encode c) = .ok c := by
  refine ⟨fun r fits => ?_, fun c => ⟨c.reads.plain, c.reads.read⟩, fun json r accepted tame => ?_,
    fun _ c _ => c.reads.read⟩
  · obtain ⟨r', reads, near⟩ := RunReport.exists_reads fits
    exact ⟨reads.plain, r', reads.read, near⟩
  · have fits := RunReport.yields json r accepted tame
    obtain ⟨r', reads, near⟩ := RunReport.exists_reads fits
    exact ⟨r', reads.read, near⟩

/-- A report of two requests that ended in nested errors, one in its script and one with no
answer. -/
theorem documents_read_back_of_errors :
    let info : RequestInfo := ⟨"login", "Log in", "POST", "http://localhost/login"⟩
    let script : ScriptResult := { ScriptResult.empty with
      duration := ⟨1500001⟩
      error := some (.badSyntax "unexpected token" (some 3) none)
      envChanges := [.setting "token" "abc" none] }
    let refused : RequestResult := { RequestResult.pending 0 info with
      status := .error
      preScript := some script
      error := some (.script .preRequest (.timeout 5000)) }
    let unanswered : RequestResult := { RequestResult.pending 1 info with
      status := .error
      response := some ⟨200, "OK", [⟨"Accept", "*/*"⟩], "", 12.5⟩
      error := some (.transport (.timeout 30000)) }
    let session : SessionInfo := { (default : SessionInfo) with
      startedAt := some ⟨1709634030, 123000000⟩ }
    let report : RunReport := ⟨session, .tally 2 [refused, unanswered], [refused, unanswered]⟩
    report.Fits ∧ (RunReport.record.codec.encode report).Plain ∧
      ∃ r', RunReport.record.codec.decode (RunReport.record.codec.encode report) = .ok r' ∧
        report.Near r' := by
  intro info script refused unanswered session report
  have scriptFits : script.Fits := ⟨by decide, by rintro _ ⟨⟩; exact ⟨by decide, nofun⟩⟩
  have refusedFits : refused.Fits :=
    { index := by decide
      response := nofun
      preScript := by rintro _ ⟨⟩; exact scriptFits
      postScript := nofun
      error := by rintro _ ⟨⟩; exact (by decide : 5000 < wordBound)
      durationMs := by decide }
  have unansweredFits : unanswered.Fits :=
    { index := by decide
      response := by rintro _ ⟨⟩; exact ⟨by decide, by decide⟩
      preScript := nofun
      postScript := nofun
      error := by rintro _ ⟨⟩; exact (by decide : 30000 < wordBound)
      durationMs := by decide }
  have configFits : session.config.Fits :=
    ⟨by decide, ⟨30000, by decide, rfl⟩, ⟨5000, by decide, rfl⟩⟩
  have sessionFits : session.Fits :=
    ⟨configFits, by decide, by rintro _ ⟨⟩; decide +kernel, nofun⟩
  have summaryFits : (RunSummary.tally 2 [refused, unanswered]).Fits :=
    ⟨by decide, by decide, by decide, by decide, by decide, by decide, by decide, by decide,
      by decide⟩
  have fits : report.Fits :=
    ⟨sessionFits, summaryFits, by
      rw [List.forall_mem_cons, List.forall_mem_singleton]
      exact ⟨refusedFits, unansweredFits⟩⟩
  exact ⟨fits, documents_read_back.1 report fits⟩

end CollectionRunner
