import ClassicS7.Library.Bytes

/-! Dialogues: a sequential program at the other end of a byte stream.

The program reads exact numbers of bytes and writes bytes, one step after the other. It
runs as far as what has arrived lets it (`resume`) and waits there, until more bytes
arrive or the stream ends. How the bytes arrive makes no difference (`resume_append`), nor
does when the program learns of the end (`resume_shutdown`), and what was written earlier
stays in front (`resume_outbox`); so a dialogue can be followed one message at a time. -/
namespace ClassicS7

/-- How a stream ends: by a shutdown of the other side, or by a reset. -/
inductive End where
  | closed
  | reset
  deriving Repr, DecidableEq

inductive Dialogue (α : Type) where
  | finished (result : α)
  | failed (error : String)
  /-- Read so many bytes; when the stream ends before, go on with its end and what there was. -/
  | read (count : Nat) (next : Bytes → Dialogue α) (short : End → Bytes → Dialogue α)
  | write (data : Bytes) (next : Dialogue α)

namespace Dialogue

variable {α β : Type}

def bind : Dialogue α → (α → Dialogue β) → Dialogue β
  | finished a, f => f a
  | failed error, _ => failed error
  | read count next short, f =>
    read count (fun data => (next data).bind f) fun cause data => (short cause data).bind f
  | write data next, f => write data (next.bind f)

instance : Monad Dialogue where
  pure := finished
  bind := bind

@[simp] theorem finished_bind (a : α) (f : α → Dialogue β) : finished a >>= f = f a := rfl

@[simp] theorem failed_bind (error : String) (f : α → Dialogue β) : failed error >>= f = failed error := rfl

@[simp] theorem read_bind (count : Nat) (next : Bytes → Dialogue α) (short : End → Bytes → Dialogue α)
    (f : α → Dialogue β) :
    read count next short >>= f = read count (fun data => next data >>= f) fun cause data => short cause data >>= f :=
  rfl

@[simp] theorem write_bind (data : Bytes) (next : Dialogue α) (f : α → Dialogue β) :
    write data next >>= f = write data (next >>= f) := rfl

instance : LawfulMonad Dialogue :=
  LawfulMonad.mk' _
    (fun p => by
      induction p with
      | finished a => rfl
      | failed error => rfl
      | read count next short ih ihshort =>
        exact congr (congrArg (read count) (funext ih)) (funext fun cause => funext (ihshort cause))
      | write data next ih => exact congrArg (write data) ih)
    (fun _ _ => rfl)
    (fun p f g => by
      induction p with
      | finished a => rfl
      | failed error => rfl
      | read count next short ih ihshort =>
        exact congr (congrArg (read count) (funext ih)) (funext fun cause => funext (ihshort cause))
      | write data next ih => exact congrArg (write data) ih)

/-! ### Running a dialogue -/

/-- A program that waits, with what it has not read, what has not been taken from it, and
how the stream to it has ended, if it has. -/
structure Served (α : Type) where
  peer : Dialogue α
  inbox : Bytes := []
  outbox : Bytes := []
  ended : Option End := none

/-- Go on as far as what has arrived lets it. -/
def resume : Dialogue α → Bytes → Bytes → Option End → Served α
  | read count next short, inbox, outbox, ended =>
    if count ≤ inbox.length then (next (inbox.take count)).resume (inbox.drop count) outbox ended
    else
      match ended with
      | none => ⟨read count next short, inbox, outbox, none⟩
      | some cause => (short cause inbox).resume [] outbox (some cause)
  | write data next, inbox, outbox, ended => next.resume inbox (outbox ++ data) ended
  | peer, inbox, outbox, ended => ⟨peer, inbox, outbox, ended⟩

section Read
variable {count : Nat} {next : Bytes → Dialogue α} {short : End → Bytes → Dialogue α} {inbox outbox : Bytes}

theorem resume_whole {ended : Option End} (h : count ≤ inbox.length) :
    (read count next short).resume inbox outbox ended =
      (next (inbox.take count)).resume (inbox.drop count) outbox ended := by
  cases ended <;> exact if_pos h

theorem resume_waits (h : ¬ count ≤ inbox.length) :
    (read count next short).resume inbox outbox none = ⟨read count next short, inbox, outbox, none⟩ := if_neg h

theorem resume_short {cause : End} (h : ¬ count ≤ inbox.length) :
    (read count next short).resume inbox outbox (some cause) = (short cause inbox).resume [] outbox (some cause) :=
  if_neg h

/-- A read takes its bytes from the front of what has arrived. -/
theorem resume_read {data rest : Bytes} {ended : Option End} (hdata : data.length = count) :
    (read count next short).resume (data ++ rest) outbox ended = (next data).resume rest outbox ended := by
  have hcount : count ≤ (data ++ rest).length := by
    rw [List.length_append]
    omega
  rw [resume_whole hcount, List.take_left' hdata, List.drop_left' hdata]

end Read

/-- What is written goes behind what was written before. -/
theorem resume_outbox (p : Dialogue α) (inbox before outbox : Bytes) (ended : Option End) :
    p.resume inbox (before ++ outbox) ended =
      { p.resume inbox outbox ended with outbox := before ++ (p.resume inbox outbox ended).outbox } := by
  induction p generalizing inbox outbox with
  | finished a => rfl
  | failed error => rfl
  | read count next short ih ihshort =>
    by_cases hcount : count ≤ inbox.length
    · rw [resume_whole hcount, resume_whole hcount]
      exact ih _ _ _
    · cases ended with
      | none => rw [resume_waits hcount, resume_waits hcount]
      | some cause =>
        rw [resume_short hcount, resume_short hcount]
        exact ihshort cause inbox [] outbox
  | write data next ih => simpa only [resume, List.append_assoc] using ih inbox (outbox ++ data)

/-- Bytes that arrive in two parts are read like bytes that arrive at once. -/
theorem resume_append (p : Dialogue α) (inbox more outbox : Bytes) (ended : Option End) :
    (p.resume inbox outbox none).peer.resume ((p.resume inbox outbox none).inbox ++ more)
        (p.resume inbox outbox none).outbox ended =
      p.resume (inbox ++ more) outbox ended := by
  induction p generalizing inbox outbox with
  | finished a => rfl
  | failed error => rfl
  | read count next short ih =>
    by_cases hcount : count ≤ inbox.length
    · have hmore : count ≤ (inbox ++ more).length := by
        rw [List.length_append]
        omega
      rw [resume_whole hcount, resume_whole hmore, ih, List.take_append_of_le_length hcount,
        List.drop_append_of_le_length hcount]
    · rw [resume_waits hcount]
  | write data next ih => exact ih inbox (outbox ++ data)

/-- Where a program has got, it knows of the end what it has been told. -/
@[simp] theorem ended_resume (p : Dialogue α) (inbox outbox : Bytes) (ended : Option End) :
    (p.resume inbox outbox ended).ended = ended := by
  induction p generalizing inbox outbox with
  | finished a => rfl
  | failed error => rfl
  | read count next short ih ihshort =>
    by_cases hcount : count ≤ inbox.length
    · rw [resume_whole hcount, ih]
    · cases ended with
      | none => rw [resume_waits hcount]
      | some cause => rw [resume_short hcount, ihshort]
  | write data next ih => exact ih inbox (outbox ++ data)

/-- A program as far as it gets on its own. -/
def alone (p : Dialogue α) : Served α := p.resume [] [] none

/-- A program that waits, when more bytes arrive. -/
def Served.accept (served : Served α) (data : Bytes) : Served α :=
  served.peer.resume (served.inbox ++ data) served.outbox served.ended

/-- A program that waits, when the stream to it ends. -/
def Served.shutdown (served : Served α) (cause : End := .closed) : Served α :=
  served.peer.resume served.inbox served.outbox (some cause)

/-- An end that comes while the program waits is like one it knew of before. -/
theorem resume_shutdown (p : Dialogue α) (inbox outbox : Bytes) (cause : End) :
    (p.resume inbox outbox none).shutdown cause = p.resume inbox outbox (some cause) := by
  have h := p.resume_append inbox [] outbox (some cause)
  rwa [List.append_nil, List.append_nil] at h

theorem accept_alone (p : Dialogue α) (data : Bytes) : p.alone.accept data = p.resume data [] none := by
  rw [Served.accept, alone, ended_resume]
  exact p.resume_append [] data [] none

/-- What a program writes first is in front of all it writes. -/
theorem alone_write (data : Bytes) (next : Dialogue α) :
    (write data next).alone = { next.alone with outbox := data ++ next.alone.outbox } := by
  have h := next.resume_outbox [] data [] none
  rw [List.append_nil] at h
  exact h

end Dialogue

end ClassicS7
