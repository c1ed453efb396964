/- module: AeronClusterClient/FileSink
   source: include/aeron_cluster/logging.hpp (FileSink, LogEntry, to_string)
   digest: What a log file and its backup hold after any run of writes, and how large they grow. -/

import AeronClusterClient.Lib.Runs
import AeronClusterClient.Text

/-!
The size that decides about a rotation is an estimate: a hundred bytes for each
line besides its message. It is taken from the file only when the file is
opened. A rotation keeps one backup, so it drops the backup before.
-/

set_option autoImplicit false
set_option relaxedAutoImplicit false

namespace AeronClusterClient.FileSink

open Lib.Runs
open Text (StdString ascii stdToString)

section Model

inductive LogLevel
  | trace
  | debug
  | info
  | warn
  | error
  | fatal
  | off
  deriving DecidableEq, Repr

def LogLevel.text : LogLevel → StdString
  | .trace => ascii "TRACE"
  | .debug => ascii "DEBUG"
  | .info => ascii "INFO"
  | .warn => ascii "WARN"
  | .error => ascii "ERROR"
  | .fatal => ascii "FATAL"
  | .off => ascii "OFF"

/-- The parts of a `LogEntry` that are written. -/
structure LogEntry where
  /-- The time in the format `%Y-%m-%d %H:%M:%S`. -/
  time : StdString
  milliseconds : Nat
  level : LogLevel
  message : StdString
  loggerName : StdString
  fileName : StdString := ascii "unknown"
  lineNumber : Int := 0

/-- Neither a slash nor a backslash. -/
def insideName (c : UInt8) : Bool := c != 47 && c != 92

def getFileName (path : StdString) : StdString := (path.reverse.takeWhile insideName).reverse

/-- `std::setfill('0') << std::setw(3)`. -/
def padded (n : Nat) : StdString :=
  List.replicate (3 - (stdToString n).length) 48 ++ stdToString n

namespace LogEntry

variable (entry : LogEntry)

/-- What stands before the message. -/
def front : StdString :=
  ascii "[" ++ entry.time ++ ascii "." ++ padded entry.milliseconds ++ ascii "] [" ++
    entry.level.text ++ ascii "] [" ++ entry.loggerName ++ ascii "] "

/-- What stands behind it. -/
def back : StdString :=
  ascii " (" ++ getFileName entry.fileName ++ ascii ":" ++ stdToString entry.lineNumber ++ ascii ")\n"

def line : StdString := entry.front ++ entry.message ++ entry.back

end LogEntry

/-- A sink with the files it writes to, as far as they exist. The lines that have gone into the file
are recorded. -/
structure Sink where
  maxSize : Nat := 10 * 1024 * 1024
  currentSize : Nat := 0
  isOpen : Bool := false
  file : Option StdString := none
  backup : Option StdString := none
  lines : List StdString := []
  deriving DecidableEq

/-- One call of `write`, and whether the file system lets the file be opened and renamed during it. -/
structure Turn where
  entry : LogEntry
  opens : Bool := true
  renames : Bool := true
  reopens : Bool := true

def openFile (opens : Bool) (s : Sink) : Sink :=
  if opens then
    { s with
      isOpen := true
      file := some (s.file.getD [])
      currentSize := (s.file.getD []).length }
  else s

/-- `std::rename`; it fails if there is no file. -/
def rename (renames : Bool) (s : Sink) : Sink :=
  if renames && s.file.isSome then { s with file := none, backup := s.file } else s

def rotateFile (turn : Turn) (s : Sink) : Sink :=
  openFile turn.reopens { rename turn.renames { s with isOpen := false } with currentSize := 0 }

/-- The output operators; nothing reaches a file that is not open. -/
def output (text : StdString) (s : Sink) : Sink :=
  if s.isOpen then
    { s with file := some (s.file.getD [] ++ text), lines := s.lines ++ [text] }
  else s

/-- The line is output, and counted whether or not it has reached the file. -/
def append (entry : LogEntry) (s : Sink) : Sink :=
  let s := output entry.line s
  { s with currentSize := s.currentSize + (entry.message.length + 100) }

def ensureOpen (opens : Bool) (s : Sink) : Sink := if s.isOpen then s else openFile opens s

def rotateIfFull (turn : Turn) (s : Sink) : Sink :=
  if s.maxSize < s.currentSize then rotateFile turn s else s

def write (turn : Turn) (s : Sink) : Sink :=
  rotateIfFull turn (append turn.entry (ensureOpen turn.opens s))

/-- The constructor, with the files that are there before it. -/
def construct (maxSize : Nat) (opens : Bool) (file backup : Option StdString) : Sink :=
  openFile opens { maxSize, file, backup }

end Model

section Contents

/-- Of the old contents and the lines that were written, the file holds the last ones, the backup
those before them, and no line is torn. -/
def Holds (old : List StdString) (s : Sink) : Prop :=
  ∃ gone kept current, old ++ s.lines = gone ++ kept ++ current ∧
    s.backup.getD [] = kept.flatten ∧ s.file.getD [] = current.flatten

variable {old : List StdString} {s : Sink}

theorem holds_openFile (opens : Bool) (holds : Holds old s) : Holds old (openFile opens s) := by
  unfold openFile
  split
  · exact holds
  · exact holds

theorem holds_rename (renames : Bool) (holds : Holds old s) : Holds old (rename renames s) := by
  unfold rename
  split
  · next moves =>
      obtain ⟨gone, kept, current, all, -, now⟩ := holds
      refine ⟨gone ++ kept, current, [], ?_, now, rfl⟩
      rw [List.append_nil]
      exact all
  · exact holds

theorem holds_output (text : StdString) (holds : Holds old s) : Holds old (output text s) := by
  obtain ⟨gone, kept, current, all, before, now⟩ := holds
  unfold output
  split
  · refine ⟨gone, kept, current ++ [text], ?_, before, ?_⟩
    · change old ++ (s.lines ++ [text]) = _
      rw [← List.append_assoc, all, List.append_assoc]
    · simp [now]
  · exact ⟨gone, kept, current, all, before, now⟩

theorem holds_write (turn : Turn) (holds : Holds old s) : Holds old (write turn s) := by
  have opened : Holds old (ensureOpen turn.opens s) := by
    unfold ensureOpen
    split
    · exact holds
    · exact holds_openFile _ holds
  have appended : Holds old (append turn.entry (ensureOpen turn.opens s)) :=
    holds_output turn.entry.line opened
  unfold write rotateIfFull
  split
  · have closed : Holds old
        { append turn.entry (ensureOpen turn.opens s) with isOpen := false } := appended
    exact holds_openFile _ (holds_rename turn.renames closed)
  · exact appended

theorem holds_construct (maxSize : Nat) (opens : Bool) (file backup : Option StdString) :
    Holds [backup.getD [], file.getD []] (construct maxSize opens file backup) := by
  refine holds_openFile opens ⟨[], [backup.getD []], [file.getD []], rfl, ?_, ?_⟩
  · simp
  · simp

end Contents

section Sizes

/-- What a file holds, or would if it existed. -/
def size (file : Option StdString) : Nat := (file.getD []).length

/-- The file system lets the file be renamed and opened again, the message has at most `longest`
bytes, and what is written around it no more than is counted for it. -/
structure Smooth (longest : Nat) (turn : Turn) : Prop where
  renames : turn.renames = true
  reopens : turn.reopens = true
  message : turn.entry.message.length ≤ longest
  around : turn.entry.front.length + turn.entry.back.length ≤ 100

/-- The estimate covers an open file, and no file that was rotated is larger than `most`. -/
structure Covered (longest most : Nat) (s : Sink) : Prop where
  isOpen : s.isOpen = true
  file : size s.file ≤ s.currentSize
  estimate : s.currentSize + (longest + 100) ≤ most
  backup : size s.backup ≤ most

variable {longest most : Nat} {s : Sink}

theorem length_line (entry : LogEntry) :
    entry.line.length = entry.front.length + entry.message.length + entry.back.length := by
  simp [LogEntry.line, Nat.add_assoc]

theorem append_of_open (entry : LogEntry) (opened : s.isOpen = true) : append entry s =
    { s with
      file := some (s.file.getD [] ++ entry.line)
      lines := s.lines ++ [entry.line]
      currentSize := s.currentSize + (entry.message.length + 100) } := by
  unfold append output
  rw [if_pos opened]

theorem size_append {turn : Turn} (smooth : Smooth longest turn) (covered : Covered longest most s) :
    size (append turn.entry s).file ≤ (append turn.entry s).currentSize := by
  have file := covered.file
  have around := smooth.around
  rw [append_of_open _ covered.isOpen]
  unfold size at *
  simp only [Option.getD_some, List.length_append, length_line]
  omega

theorem rotateFile_of_smooth {turn : Turn} (smooth : Smooth longest turn) {text : StdString}
    (there : s.file = some text) : rotateFile turn s =
      { s with isOpen := true, file := some [], backup := some text, currentSize := 0 } := by
  unfold rotateFile rename openFile
  rw [smooth.renames, smooth.reopens]
  simp [there]

theorem covered_write {turn : Turn} (smooth : Smooth longest turn) (covered : Covered longest most s)
    (room : s.maxSize + (longest + 100) ≤ most) :
    Covered longest most (write turn s) ∧ (write turn s).currentSize ≤ (write turn s).maxSize ∧
      (write turn s).maxSize = s.maxSize := by
  have still : ensureOpen turn.opens s = s := if_pos covered.isOpen
  have inside := size_append smooth covered
  have message := smooth.message
  have estimate := covered.estimate
  have appended := append_of_open turn.entry covered.isOpen
  unfold write rotateIfFull
  rw [still]
  split
  · have there : (append turn.entry s).file = some (s.file.getD [] ++ turn.entry.line) := by
      rw [appended]
    rw [rotateFile_of_smooth smooth there]
    rw [there, appended] at inside
    refine ⟨⟨rfl, Nat.le_refl 0, ?_, ?_⟩, Nat.zero_le _, by rw [appended]⟩
    · dsimp only
      omega
    · exact inside.trans (by dsimp only; omega)
  · next fits =>
      rw [appended] at fits inside ⊢
      dsimp only at fits
      refine ⟨⟨covered.isOpen, inside, ?_, covered.backup⟩, Nat.le_of_not_lt fits, rfl⟩
      dsimp only
      omega

end Sizes

section Runs

variable {longest most : Nat} {s : Sink} {turns : List Turn}

def said (turns : List Turn) : List StdString := turns.map fun turn => turn.entry.line

theorem lines_rotateIfFull (turn : Turn) : (rotateIfFull turn s).lines = s.lines := by
  unfold rotateIfFull rotateFile openFile rename
  split
  · split <;> split <;> rfl
  · rfl

theorem lines_write (turn : Turn) :
    (write turn s).lines = s.lines ∨ (write turn s).lines = s.lines ++ [turn.entry.line] := by
  have same : (ensureOpen turn.opens s).lines = s.lines := by
    unfold ensureOpen openFile
    split
    · rfl
    · split <;> rfl
  unfold write
  rw [lines_rotateIfFull, ← same]
  unfold append output
  split
  · exact .inr rfl
  · exact .inl rfl

theorem lines_stateAfter (s : Sink) (turns : List Turn) :
    ∃ reached, List.Sublist reached (said turns) ∧
      (stateAfter write s turns).lines = s.lines ++ reached := by
  induction turns generalizing s with
  | nil => exact ⟨[], List.Sublist.refl [], by simp [stateAfter]⟩
  | cons turn turns ih =>
      obtain ⟨reached, sub, lines⟩ := ih (write turn s)
      change ∃ reached, _ ∧ (stateAfter write (write turn s) turns).lines = _
      rcases lines_write (s := s) turn with same | more
      · exact ⟨reached, sub.cons _, by rw [lines, same]⟩
      · exact ⟨turn.entry.line :: reached, sub.cons_cons _, by rw [lines, more]; simp⟩

structure Fits (longest most maxSize : Nat) (s : Sink) : Prop extends Covered longest most s where
  within : s.currentSize ≤ s.maxSize
  maxSize : s.maxSize = maxSize

theorem fits_stateAfter {maxSize : Nat} (room : maxSize + (longest + 100) ≤ most)
    (smooth : ∀ turn ∈ turns, Smooth longest turn) (fits : Fits longest most maxSize s) :
    Fits longest most maxSize (stateAfter write s turns) := by
  induction turns generalizing s with
  | nil => exact fits
  | cons turn turns ih =>
      have enough : s.maxSize + (longest + 100) ≤ most := by rwa [fits.maxSize]
      obtain ⟨covered, within, same⟩ :=
        covered_write (smooth turn List.mem_cons_self) fits.toCovered enough
      exact ih (fun other among => smooth other (List.mem_cons_of_mem _ among))
        ⟨covered, within, same.trans fits.maxSize⟩

/-- After any run of writes the file and its backup hold the end of all that reached the file, line by
line, with what was there before in front. If the files can be renamed and opened, the file is never
larger than the limit after a write, and the backup than the limit by one line. -/
theorem log_is_kept (maxSize : Nat) (opens : Bool) (file backup : Option StdString)
    (turns : List Turn) :
    Holds [backup.getD [], file.getD []]
        (stateAfter write (construct maxSize opens file backup) turns) ∧
      List.Sublist (stateAfter write (construct maxSize opens file backup) turns).lines (said turns) ∧
      ∀ longest, opens = true → turns ≠ [] → (∀ turn ∈ turns, Smooth longest turn) →
        size (stateAfter write (construct maxSize opens file backup) turns).file ≤ maxSize ∧
          size (stateAfter write (construct maxSize opens file backup) turns).backup ≤
            max (size backup) (max (size file) maxSize + (longest + 100)) := by
  refine ⟨?_, ?_, ?_⟩
  · exact invariant_of_steps (Holds _) (holds_construct maxSize opens file backup)
      fun s turn holds => holds_write turn holds
  · have fresh : (construct maxSize opens file backup).lines = [] := by
      unfold construct openFile
      split <;> rfl
    obtain ⟨reached, sub, lines⟩ := lines_stateAfter (construct maxSize opens file backup) turns
    rw [lines, fresh]
    exact sub
  · rintro longest rfl filled smooth
    cases turns with
    | nil => exact absurd rfl filled
    | cons turn turns =>
        let most := max (size backup) (max (size file) maxSize + (longest + 100))
        have room : maxSize + (longest + 100) ≤ most := by omega
        have covered : Covered longest most (construct maxSize true file backup) :=
          ⟨rfl, Nat.le_refl _, by change size file + _ ≤ _; omega, by change size backup ≤ _; omega⟩
        obtain ⟨later, within, same⟩ := covered_write (smooth turn List.mem_cons_self) covered room
        have fits := fits_stateAfter room
          (fun other among => smooth other (List.mem_cons_of_mem _ among)) ⟨later, within, same⟩
        exact ⟨(fits.file.trans fits.within).trans_eq fits.maxSize, fits.backup⟩

section Sample

def greetings : List Turn :=
  List.replicate 3
    { entry :=
        { time := ascii "2024-01-01 00:00:00", milliseconds := 7, level := .info
          message := ascii "hello", loggerName := ascii "ClusterClient" } }

theorem log_is_kept_sample :
    size (stateAfter write (construct 200 true none none) greetings).file ≤ 200 ∧
      size (stateAfter write (construct 200 true none none) greetings).backup ≤
        max (size none) (max (size none) 200 + (5 + 100)) := by
  refine (log_is_kept 200 true none none greetings).2.2 5 rfl (by decide) fun turn among => ?_
  obtain rfl := List.eq_of_mem_replicate among
  exact ⟨rfl, rfl, by decide, by decide⟩

end Sample

end Runs

end AeronClusterClient.FileSink
