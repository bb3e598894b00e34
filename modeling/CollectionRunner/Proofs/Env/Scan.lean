import CollectionRunner.Proofs.Env.Pieces

/-!
# Scans at byte offsets

A scan goes through the encoded text: it looks for braces, which gives byte offsets, and takes the
parts of the text at these offsets.  `before?` and `after?` take such a part and have none where an
offset is out of range or inside a character; `turn?` is one turn of the scan, made of them.  A turn
of the scan takes the first piece of the text, or two (`turn?_of_escaped`, `turn?_of_closed`), so a
scan ends, with every part it takes there, and what it wrote is the expansion (`Cut.scans`).  Main
statement: `Variables.expand_cut`.
-/

namespace CollectionRunner

namespace Placeholder

/-! ## Parts of a text -/

/-- The part of a text before a byte offset. -/
def before? (s : String) (offset : Nat) : Option String :=
  if valid : String.Pos.Raw.IsValid s ⟨offset⟩ then some (s.sliceTo ⟨⟨offset⟩, valid⟩).copy
  else none

/-- The part of a text from a byte offset on. -/
def after? (s : String) (offset : Nat) : Option String :=
  if valid : String.Pos.Raw.IsValid s ⟨offset⟩ then some (s.sliceFrom ⟨⟨offset⟩, valid⟩).copy
  else none

/-- The part of a text between two byte offsets. -/
def between? (s : String) (first last : Nat) : Option String := do
  after? (← before? s last) first

theorem valid_append (front back : String) :
    String.Pos.Raw.IsValid (front ++ back) ⟨front.utf8ByteSize⟩ :=
  String.Pos.Raw.isValid_iff_exists_append.mpr ⟨front, back, rfl, rfl⟩

/-- How many bytes characters are encoded in. -/
def bytes (cs : List Char) : Nat := (String.ofList cs).utf8ByteSize

theorem bytes_append (front back : List Char) : bytes (front ++ back) = bytes front + bytes back := by
  rw [bytes, String.ofList_append, String.utf8ByteSize_append]
  rfl

theorem bytes_cons (a : Char) (cs : List Char) : bytes (a :: cs) = a.utf8Size + bytes cs := by
  have first : bytes [a] = a.utf8Size := by
    rw [bytes, ← String.singleton_eq_ofList, String.utf8ByteSize_singleton]
  rw [← List.singleton_append, bytes_append, first]

theorem before?_append (front back : List Char) :
    before? (String.ofList (front ++ back)) (bytes front) = some (String.ofList front) := by
  rw [String.ofList_append]
  have valid := valid_append (String.ofList front) (String.ofList back)
  rw [before?, bytes, dif_pos valid]
  have there : String.Pos.Splits ⟨_, valid⟩ (String.ofList front) (String.ofList back) :=
    ⟨rfl, rfl⟩
  exact congrArg some ((String.Pos.splits _).eq_left there)

theorem after?_append (front back : List Char) :
    after? (String.ofList (front ++ back)) (bytes front) = some (String.ofList back) := by
  rw [String.ofList_append]
  have valid := valid_append (String.ofList front) (String.ofList back)
  rw [after?, bytes, dif_pos valid]
  have there : String.Pos.Splits ⟨_, valid⟩ (String.ofList front) (String.ofList back) :=
    ⟨rfl, rfl⟩
  exact congrArg some ((String.Pos.splits _).eq_right there)

theorem between?_append (front middle back : List Char) :
    between? (String.ofList (front ++ middle ++ back)) (bytes front) (bytes (front ++ middle)) =
      some (String.ofList middle) := by
  rw [between?, before?_append, Option.bind_eq_bind, Option.bind_some, after?_append]

/-- The byte offset of the first pair of a character. -/
def offset? (c : Char) : List Char → Option Nat
  | [] => none
  | a :: rest =>
    if a = c ∧ rest.head? = some c then some 0 else (offset? c rest).map (a.utf8Size + ·)

/-- The offset of a pair is the number of bytes before the first one. -/
theorem offset?_eq (c : Char) (cs : List Char) :
    offset? c cs = (splitPair c cs).map fun (before, _) => bytes before := by
  induction cs with
  | nil => rfl
  | cons a rest ih =>
    rw [splitPair_cons, offset?, ih]
    split
    · rfl
    · cases splitPair c rest with
      | none => rfl
      | some pair => exact congrArg some (bytes_cons a pair.1).symm

/-! ## The scan -/

/-- A scan of a text: what was written, and the text that is left. -/
structure Scan where
  output : String
  rest : String

/-- What a turn of a scan comes to. -/
inductive Turn
  | next (scan : Scan)
  | ended (output : String)

/-- Two opening braces. -/
def openingPair : String := String.ofList [opening, opening]

/-- What is written for a placeholder with its raw text. -/
def substitute (vars : Variables) (inner raw : String) : String :=
  let name := Text.trim inner
  match vars.get? name with
  | some value => if validName name.toList then value else raw
  | none => raw

/-- One turn of a scan; nothing when a part it takes is not there. -/
def turn? (vars : Variables) (s : Scan) : Option Turn :=
  match offset? opening s.rest.toList with
  | none => some (.ended (s.output ++ s.rest))
  | some start => do
    let before ← before? s.rest start
    if before.toList.getLast? = some '\\' then
      -- The backslash is the byte before the braces, so there is one to go back over.
      let kept ← before? s.rest (start - 1)
      let rest ← after? s.rest (start + 2)
      return .next ⟨s.output ++ kept ++ openingPair, rest⟩
    else
      let after ← after? s.rest (start + 2)
      match offset? closing after.toList with
      | none => return .ended (s.output ++ before ++ (← after? s.rest start))
      | some stop =>
        let inner ← before? after stop
        let raw ← between? s.rest start (start + 2 + stop + 2)
        let rest ← after? after (stop + 2)
        return .next ⟨s.output ++ before ++ substitute vars inner raw, rest⟩

/-- A scan ends with an output, every turn of it being there. -/
inductive Scans (vars : Variables) : Scan → String → Prop
  | ended {s : Scan} {output : String} : turn? vars s = some (.ended output) →
    Scans vars s output
  | next {s t : Scan} {output : String} : turn? vars s = some (.next t) → Scans vars t output →
    Scans vars s output

/-! ## Turns -/

/-- What is put in place of a placeholder is what its piece shows. -/
theorem substitute_eq (vars : Variables) (inner : List Char) :
    substitute vars (String.ofList inner) (String.ofList (braced inner)) =
      String.ofList ((Piece.placeholder inner).shown vars.get?) := by
  rw [← resolve_eq, resolve, substitute, Text.trim, String.toList_ofList]
  cases vars.get? (String.ofList (Text.trimmed inner)) with
  | none => rfl
  | some value =>
    simp only [String.toList_ofList]
    split
    · exact String.ofList_toList.symm
    · rfl

section

variable {c : Char} {cs before after : List Char} (pair : FirstPair c cs before after)
include pair

theorem FirstPair.offset?_eq : offset? c cs = some (bytes before) := by
  rw [Placeholder.offset?_eq, splitPair_eq_some_iff.mpr pair]
  rfl

theorem FirstPair.before?_eq :
    before? (String.ofList cs) (bytes before) = some (String.ofList before) := by
  rw [pair.split, before?_append]

/-- What is left after braces, which are encoded in a byte each. -/
theorem FirstPair.after?_eq (narrow : c.utf8Size = 1) :
    after? (String.ofList cs) (bytes before + 2) = some (String.ofList after) := by
  have ends : bytes (before ++ [c, c]) = bytes before + 2 := by
    rw [bytes_append, bytes_cons, bytes_cons, narrow]
    rfl
  rw [← ends, pair.split, ← after?_append (before ++ [c, c]) after]
  simp

end

section

variable {cs before after inner rest : List Char} (vars : Variables) (output : String)

theorem turn?_of_unopened (unopened : ¬ [opening, opening] <:+: cs) :
    turn? vars ⟨output, String.ofList cs⟩ = some (.ended (output ++ String.ofList cs)) := by
  have missing : offset? opening cs = none := by
    rw [offset?_eq, splitPair_eq_none_iff.mpr unopened, Option.map_none]
  simp only [turn?, String.toList_ofList, missing]

/-- A turn at an escaped pair writes the pair without its backslash and goes on behind it. -/
theorem turn?_of_escaped (pair : FirstPair opening cs (before ++ ['\\']) after) :
    turn? vars ⟨output, String.ofList cs⟩ =
      some (.next ⟨output ++ String.ofList before ++ openingPair, String.ofList after⟩) := by
  have kept : before? (String.ofList cs) (bytes (before ++ ['\\']) - 1) =
      some (String.ofList before) := by
    have behind : bytes (before ++ ['\\']) - 1 = bytes before := by
      rw [bytes_append]
      rfl
    rw [behind, pair.split, List.append_assoc, before?_append]
  simp only [turn?, String.toList_ofList, pair.offset?_eq, pair.before?_eq, kept,
    pair.after?_eq rfl, List.getLast?_concat, Option.bind_eq_bind, Option.bind_some, if_true,
    Option.pure_def]

/-- A turn at a pair that is not closed writes the rest of the text and ends. -/
theorem turn?_of_unclosed (pair : FirstPair opening cs before after)
    (unescaped : before.getLast? ≠ some '\\') (unclosed : ¬ [closing, closing] <:+: after) :
    turn? vars ⟨output, String.ofList cs⟩ = some (.ended (output ++ String.ofList cs)) := by
  have missing : offset? closing after = none := by
    rw [offset?_eq, splitPair_eq_none_iff.mpr unclosed, Option.map_none]
  have left : after? (String.ofList cs) (bytes before) =
      some (String.ofList (opening :: opening :: after)) := by
    rw [pair.split, after?_append]
  have whole : String.ofList before ++ String.ofList (opening :: opening :: after) =
      String.ofList cs := by
    rw [← String.ofList_append, ← pair.split]
  simp only [turn?, String.toList_ofList, pair.offset?_eq, pair.before?_eq, if_neg unescaped,
    pair.after?_eq rfl, missing, left, Option.bind_eq_bind, Option.bind_some, Option.pure_def,
    String.append_assoc, whole]

/-- A turn at a placeholder writes what its piece shows and goes on behind it. -/
theorem turn?_of_closed (pair : FirstPair opening cs before after)
    (unescaped : before.getLast? ≠ some '\\') (closed : FirstPair closing after inner rest) :
    turn? vars ⟨output, String.ofList cs⟩ =
      some (.next ⟨output ++ String.ofList before ++
        String.ofList ((Piece.placeholder inner).shown vars.get?), String.ofList rest⟩) := by
  have raw : between? (String.ofList cs) (bytes before) (bytes before + 2 + bytes inner + 2) =
      some (String.ofList (braced inner)) := by
    have ends : bytes (before ++ braced inner) = bytes before + 2 + bytes inner + 2 := by
      rw [braced, bytes_append, bytes_append, bytes_append]
      change bytes before + (2 + bytes inner + 2) = _
      omega
    have split : cs = before ++ braced inner ++ rest := by
      rw [pair.split, closed.split, braced]
      simp
    rw [← ends, split, between?_append]
  simp only [turn?, String.toList_ofList, pair.offset?_eq, pair.before?_eq, if_neg unescaped,
    pair.after?_eq rfl, closed.offset?_eq, closed.before?_eq, closed.after?_eq rfl, raw,
    substitute_eq, Option.bind_eq_bind, Option.bind_some, Option.pure_def]

end

/-- A scan of what is left writes its expansion after what was written. -/
theorem Cut.scans {cs : List Char} {pieces : List Piece} (cut : Cut cs pieces) (vars : Variables)
    (output : String) :
    Scans vars ⟨output, String.ofList cs⟩
      (output ++ String.ofList (pieces.flatMap (Piece.shown vars.get?))) := by
  -- A turn only adds to what was written, so the induction has it as any text.
  induction cut generalizing output with
  | plain unopened =>
    rw [List.flatMap_singleton]
    exact .ended (turn?_of_unopened vars output unopened)
  | escaped pair _ ih =>
    rw [List.flatMap_cons, List.flatMap_cons, String.ofList_append, String.ofList_append,
      ← String.append_assoc, ← String.append_assoc]
    exact .next (turn?_of_escaped vars output pair) (ih _)
  | unclosed pair unescaped unclosed =>
    rw [List.flatMap_singleton]
    exact .ended (turn?_of_unclosed vars output pair unescaped unclosed)
  | closed pair unescaped closed _ ih =>
    rw [List.flatMap_cons, List.flatMap_cons, String.ofList_append, String.ofList_append,
      ← String.append_assoc, ← String.append_assoc]
    exact .next (turn?_of_closed vars output pair unescaped closed) (ih _)

/-- What the pieces of a text say of its expansions. -/
structure Expands (text : String) (pieces : List Piece) : Prop where
  cut : Cut text.toList pieces
  written : pieces.flatMap Piece.written = text.toList
  shown : ∀ vars : Variables,
    vars.expand text = String.ofList (pieces.flatMap (Piece.shown vars.get?))
  agrees : ∀ vars vars' : Variables, (∀ key ∈ keys pieces, vars.get? key = vars'.get? key) →
    vars.expand text = vars'.expand text
  scanned : ∀ vars : Variables, Scans vars ⟨"", text⟩ (vars.expand text)

theorem Cut.expands {text : String} {pieces : List Piece} (cut : Cut text.toList pieces) :
    Expands text pieces := by
  have shown (vars : Variables) :
      vars.expand text = String.ofList (pieces.flatMap (Piece.shown vars.get?)) :=
    congrArg String.ofList (cut.expandChars_eq vars)
  refine ⟨cut, cut.written, shown, fun vars vars' agree => ?_, fun vars => ?_⟩
  · rw [shown, shown, flatMap_shown_congr agree]
  · rw [shown]
    simpa using cut.scans vars ""

end Placeholder

/-- A text is cut into pieces in one way, whatever the variables are, and every expansion of it shows
these pieces; the scan at byte offsets ends with it. -/
theorem Variables.expand_cut (text : String) :
    ∃! pieces : List Placeholder.Piece, Placeholder.Expands text pieces := by
  obtain ⟨pieces, cut⟩ := Placeholder.exists_cut text.toList
  exact ⟨pieces, cut.expands, fun _ expands => expands.cut.unique cut⟩

end CollectionRunner
