import CollectionRunner.Proofs.Duration
import CollectionRunner.Proofs.Json.Conversion
import CollectionRunner.Script.Result

/-!
# Durations that abort the reading of a result

The milliseconds that a document holds for a script are converted to a span once they are read.  The
conversion clamps them below and not above, and of all that reading a result does it alone can abort
(`ScriptResult.steady_fieldsWith`).  Main statement: `ScriptResult.decode_aborts`.
-/

namespace CollectionRunner

theorem Duration.double_converts : Codec.double.Converts ofFractional? fractionalCodec := by
  intro json
  simp only [fractionalCodec]
  cases Codec.double.decode json with
  | error => rfl
  | ok ms =>
    simp only [converted, bind, Except.bind]
    cases ofFractional? ms <;> rfl

theorem Record.decode_map (r : Record α) (into : α → β) (back : β → α) (json : Json) :
    (r.map into back).decode json = (r.decode json).map into := by
  have settled (around : Found Unit) (found : Found α) :
      settle (around.both (found.map into)) = (settle (around.both found)).map into := by
    cases around <;> cases found <;> rfl
  cases json with
  | object | array => exact settled _ _
  | torn | cut => rfl
  | _ => rfl

/-! ## Codecs that do not abort -/

theorem ConsoleEntry.steady_record : ConsoleEntry.record.Steady :=
  .map (.cons (.required (.choice _ _)) (.cons (.required .string) .nil)) _ _

theorem AssertionResult.steady_record : AssertionResult.record.Steady :=
  .map (.cons (.required .string) (.cons (.required .bool) (.cons (.optional .string)
    (.cons (.optional .string) (.cons (.defaulted .string) .nil))))) _ _

theorem Change.steady_record : Change.record.Steady :=
  .map (.cons (.required (.choice _ _)) (.cons (.required .string)
    (.cons (.optionalNamed .string) (.cons (.optionalNamed .string) .nil)))) _ _

theorem ScriptError.steady_placedRecord : placedRecord.Steady :=
  .map (.cons (.required .string) (.cons (.nullable (.natural 64))
    (.cons (.nullable (.natural 64)) .nil))) _ _

theorem ScriptError.steady_codec : ScriptError.codec.Steady := by
  refine .tagged ?_
  simp only [List.forall_mem_cons]
  exact ⟨.ofRecord steady_placedRecord _ _, .ofRecord steady_placedRecord _ _,
    .ofRecord (.map (.cons (.required (.natural 64)) .nil) _ _) _ _,
    .ofRecord (.map (.cons (.required .string) .nil) _ _) _ _, nofun⟩

namespace ScriptResult

/-! ## The fields of a result -/

/-- The fields of a result after its duration. -/
def laterFields : Record (Option ScriptError × List ConsoleEntry × List AssertionResult ×
    List Change × List Change × Bool × Unit) :=
  .cons (.optional "error" ScriptError.codec)
    (.cons (.defaulted "consoleOutput" ConsoleEntry.record.codec.list [])
      (.cons (.defaulted "assertions" AssertionResult.record.codec.list [])
        (.cons (.defaulted "envChanges" Change.record.codec.list [])
          (.cons (.defaulted "globalChanges" Change.record.codec.list [])
            (.cons (.defaulted "requestModified" .bool false) .nil)))))

/-- The fields of a result, the duration read in a way of its own. -/
def fieldsWith (duration : Codec δ) : Record (Bool × δ × Option ScriptError ×
    List ConsoleEntry × List AssertionResult × List Change × List Change × Bool × Unit) :=
  .cons (.required "success" .bool) (.cons (.required "durationMs" duration) laterFields)

/-- The result with some fields. -/
def ofFields : Bool × Duration × Option ScriptError × List ConsoleEntry × List AssertionResult ×
    List Change × List Change × Bool × Unit → ScriptResult :=
  fun (success, duration, error, console, assertions, envChanges, globalChanges, modified, _) =>
    ⟨success, duration, error, console, assertions, envChanges, globalChanges, modified⟩

/-- The milliseconds that a document holds for its duration. -/
def milliseconds? (json : Json) : Option Float :=
  (record.slots? json).bind fun slots => ((Field.required "durationMs" .double).read slots).toOption

theorem decode_eq (json : Json) :
    record.codec.decode json =
      ((fieldsWith Duration.fractionalCodec).decode json).map ofFields :=
  Record.decode_map _ _ _ json

theorem steady_laterFields : laterFields.Steady :=
  .cons (.optional ScriptError.steady_codec)
    (.cons (.defaulted (.list (.record ConsoleEntry.steady_record)))
      (.cons (.defaulted (.list (.record AssertionResult.steady_record)))
        (.cons (.defaulted (.list (.record Change.steady_record)))
          (.cons (.defaulted (.list (.record Change.steady_record)))
            (.cons (.defaulted .bool) .nil)))))

theorem steady_fieldsWith {duration : Codec δ} (steady : duration.Steady) :
    (fieldsWith duration).Steady :=
  .cons (.required .bool) (.cons (.required steady) steady_laterFields)

theorem milliseconds?_of_read {json : Json} {slots : Slots} {ms : Float}
    (place : (fieldsWith Codec.double).slots? json = some slots)
    (read : (Field.required "durationMs" .double).read slots = .ok ms) :
    milliseconds? json = some ms := by
  have same : record.slots? json = some slots := by
    cases json <;> exact place
  rw [milliseconds?, same, Option.bind_some, read]
  rfl

/-! ## Reading a result -/

/-- A document that holds the fields of a result is read, unless its duration is too long. -/
theorem decode_of_fields {json : Json} {success : Bool} {ms : Float}
    {later : Option ScriptError × List ConsoleEntry × List AssertionResult × List Change ×
      List Change × Bool × Unit}
    (read : (fieldsWith Codec.double).decode json = .ok (success, ms, later)) :
    record.codec.decode json =
      (converted Duration.ofFractional? ms).map fun d => ofFields (success, d, later) := by
  have fields : (fieldsWith Duration.fractionalCodec).decode json =
      (converted Duration.ofFractional? ms).map fun d => (success, d, later) :=
    Record.decode_converted_ok Duration.double_converts read
  rw [decode_eq, fields]
  cases converted Duration.ofFractional? ms <;> rfl

/-- A document that does not hold the fields of a result is refused for the same reason, unless its
duration is too long. -/
theorem decode_of_fault {json : Json} {fault : Fault}
    (read : (fieldsWith Codec.double).decode json = .error fault) :
    record.codec.decode json = .error fault ∨ record.codec.decode json = .error .overflow ∧
      ∃ ms, milliseconds? json = some ms ∧ Duration.ofFractional? ms = none := by
  rw [decode_eq]
  have parts : (fieldsWith Duration.fractionalCodec).decode json = .error fault ∨
      (fieldsWith Duration.fractionalCodec).decode json = .error .overflow ∧
        ∃ slots x, (fieldsWith Codec.double).slots? json = some slots ∧
          (Field.required "durationMs" .double).read slots = .ok x ∧
          Duration.ofFractional? x = none :=
    Record.decode_converted_fault Duration.double_converts read
  rcases parts with same | ⟨aborts, slots, ms, place, held, fails⟩
  · exact .inl (by rw [same]; rfl)
  · exact .inr ⟨by rw [aborts]; rfl, ms, milliseconds?_of_read place held, fails⟩

/-- Reading a result aborts only on a duration of `2 ^ 64` seconds or more. -/
theorem long_of_decode {json : Json} (steady : json.Steady)
    (aborts : record.codec.decode json = .error .overflow) :
    ∃ ms, milliseconds? json = some ms ∧ Duration.ofFractional? ms = none := by
  cases read : (fieldsWith Codec.double).decode json with
  | error fault =>
    rcases decode_of_fault read with same | ⟨-, long⟩
    · rw [same] at aborts
      cases aborts
      exact absurd read ((steady_fieldsWith .double).decode steady)
    · exact long
  | ok fields =>
    obtain ⟨success, ms, later⟩ := fields
    obtain ⟨slots, place, held⟩ := Record.decode_ok_held read
    refine ⟨ms, milliseconds?_of_read place held, ?_⟩
    rw [decode_of_fields read] at aborts
    unfold converted at aborts
    cases fate : Duration.ofFractional? ms with
    | none => rfl
    | some d =>
      rw [fate] at aborts
      cases aborts

/-- Reading a text as a result aborts only on a duration of `2 ^ 64` seconds or more.  A document that
has the fields of a result does abort on such a duration, whatever else it holds, and is a result for
any other; numbers that are not positive count as no time.  What else is wrong with a document is
reported, if not a duration before it aborts. -/
theorem decode_aborts (text : String) :
    (record.codec.decode (Json.read text).json = .error .overflow →
      ∃ ms, milliseconds? (Json.read text).json = some ms ∧ 18446744073709551616000.0 ≤ ms) ∧
    (∀ success ms later,
      (fieldsWith Codec.double).decode (Json.read text).json = .ok (success, ms, later) →
      if 18446744073709551616000.0 ≤ ms then
        record.codec.decode (Json.read text).json = .error .overflow
      else
        ∃ d, Duration.ofFractional? ms = some d ∧ (¬ ms > 0.0 → d = .zero) ∧
          record.codec.decode (Json.read text).json = .ok (ofFields (success, d, later))) ∧
    (∀ fault, (fieldsWith Codec.double).decode (Json.read text).json = .error fault →
      fault ≠ .overflow ∧ (record.codec.decode (Json.read text).json = .error fault ∨
        record.codec.decode (Json.read text).json = .error .overflow)) := by
  have steady := Json.steady_read text
  generalize (Json.read text).json = json at steady
  refine ⟨fun aborts => ?_, fun success ms later read => ?_, fun fault read => ⟨?_, ?_⟩⟩
  · obtain ⟨ms, held, long⟩ := long_of_decode steady aborts
    exact ⟨ms, held, (Duration.ofFractional?_eq_none_iff ms).mp long⟩
  · rw [decode_of_fields read]
    split
    · rename_i long
      rw [converted, (Duration.ofFractional?_eq_none_iff ms).mpr long]
      rfl
    · rename_i short
      obtain ⟨d, done⟩ := Option.ne_none_iff_exists'.mp
        (mt (Duration.ofFractional?_eq_none_iff ms).mp short)
      refine ⟨d, done, fun notPositive => ?_, by rw [converted, done]; rfl⟩
      rw [Duration.ofFractional?_of_not_positive notPositive] at done
      exact (Option.some.inj done).symm
  · rintro rfl
    exact (steady_fieldsWith .double).decode steady read
  · exact (decode_of_fault read).imp_right And.left

/-- A duration above the limit aborts the reading of a document that is well formed. -/
theorem reading_aborts : record.codec.decode (.object
    [("success", .bool true), ("durationMs", .double 19000000000000000000000.0)]) =
      .error .overflow := by
  have long : (18446744073709551616000.0 : Float) ≤ 19000000000000000000000.0 := by decide
  have read : (fieldsWith Codec.double).decode (.object
      [("success", .bool true), ("durationMs", .double 19000000000000000000000.0)]) =
        .ok (true, 19000000000000000000000.0, none, [], [], [], [], false, ()) := rfl
  rw [decode_of_fields read, converted, (Duration.ofFractional?_eq_none_iff _).mpr long]
  rfl

end ScriptResult

end CollectionRunner
