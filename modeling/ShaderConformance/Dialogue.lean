/-!
# Dialogues

A dialogue is a computation that asks its surroundings questions and goes on with
the answers until it has a value.  The answers are not part of it, so a statement
about a dialogue speaks of all surroundings at once; `answer` runs a dialogue
against surroundings that are given by a function of a state.

Main statements: dialogues form a lawful monad, and `answer_bind` says that
surroundings answer one dialogue after the other.
-/

namespace ShaderConformance

/-- A computation that asks questions; a question `q` is answered by an `A q`. -/
inductive Dialogue {Q : Type} (A : Q → Type) (T : Type) : Type where
  | done (value : T)
  | ask (question : Q) (next : A question → Dialogue A T)

namespace Dialogue

variable {Q : Type} {A : Q → Type} {S T U : Type}

/-- Goes on with another dialogue once there is a value. -/
def bind (d : Dialogue A T) (f : T → Dialogue A U) : Dialogue A U :=
  match d with
  | done value => f value
  | ask question next => ask question fun a => (next a).bind f

instance : Monad (Dialogue A) where
  pure := done
  bind := bind

/-- Asks one question. -/
def question (q : Q) : Dialogue A (A q) := ask q done

/-- Runs a dialogue against surroundings with a state. -/
def answer (surroundings : (q : Q) → S → A q × S) : Dialogue A T → S → T × S
  | done value, s => (value, s)
  | ask q next, s =>
    let (a, s) := surroundings q s
    (next a).answer surroundings s

theorem pure_def (value : T) : (pure value : Dialogue A T) = done value := rfl

theorem bind_def (d : Dialogue A T) (f : T → Dialogue A U) : d >>= f = d.bind f := rfl

@[simp] theorem done_bind (value : T) (f : T → Dialogue A U) : (done value).bind f = f value := rfl

@[simp] theorem ask_bind (q : Q) (next : A q → Dialogue A T) (f : T → Dialogue A U) :
    (ask q next).bind f = ask q fun a => (next a).bind f := rfl

@[simp] theorem bind_done (d : Dialogue A T) : d.bind done = d := by
  induction d with
  | done => rfl
  | ask q next ih => simp [ih]

/-- It does not matter how dialogues are grouped. -/
theorem bind_assoc {V : Type} (d : Dialogue A T) (f : T → Dialogue A U) (g : U → Dialogue A V) :
    (d.bind f).bind g = d.bind fun t => (f t).bind g := by
  induction d with
  | done => rfl
  | ask q next ih => simp [ih]

instance : LawfulMonad (Dialogue A) :=
  LawfulMonad.mk' (Dialogue A) bind_done (fun _ _ => rfl) bind_assoc

/-- Surroundings answer one dialogue after the other, and keep their state between them. -/
theorem answer_bind (surroundings : (q : Q) → S → A q × S) (d : Dialogue A T)
    (f : T → Dialogue A U) (s : S) :
    (d.bind f).answer surroundings s =
      (f (d.answer surroundings s).1).answer surroundings (d.answer surroundings s).2 := by
  induction d generalizing s with
  | done => rfl
  | ask q next ih => exact ih _ _

end Dialogue

end ShaderConformance
