import StackPlaybook.Playbook.Play
import StackPlaybook.Scene.Command

/-!
# StackPlaybook.Scene.Catalogue

All kinds of scenes as one type that a playbook can be made of.
-/

namespace StackPlaybook

open Scene

/-- A scene that acts on a state `σ`. -/
inductive Scene (σ : Type) where
  | adLib (scene : AdLib σ)
  | publish (scene : Publish σ)
  | invoke (scene : Invoke σ)
  | send (scene : SendMessage σ)
  | put (scene : PutRecord σ)
  | poll (scene : Poll σ)
  | waitRecord (scene : WaitRecord σ)
  | waitLog (scene : WaitLog σ)
  | pause (scene : Pause)
  | shell (scene : ShellAction)
  | shellPoll (scene : ShellPoll)
  | resolve (scene : ResolveStep)

namespace Scene

variable {σ : Type} [Environment σ]

/-- Whether the scene acts once, as opposed to waiting for something. -/
def isAction : Scene σ → Bool
  | .poll _ | .waitRecord _ | .waitLog _ | .shellPoll _ => false
  | _ => true

def label : Scene σ → String
  | .adLib scene => scene.label
  | .publish scene => scene.label
  | .invoke scene => scene.label
  | .send scene => scene.label
  | .put scene => scene.label
  | .poll scene => scene.label
  | .waitRecord scene => scene.label
  | .waitLog scene => scene.label
  | .pause scene => scene.label
  | .shell scene => scene.label
  | .shellPoll scene => scene.label
  | .resolve scene => scene.label

/-- An attempt at a scene that stays as it is. -/
def unchanged (scene : Scene σ) (a : Act σ Outcome) (s : σ) :
    (Except Error Outcome × Scene σ) × σ :=
  let (result, s) := a s
  ((result, scene), s)

/-- One attempt. -/
def attempt (registry : Registry) (scene : Scene σ) (s : σ) :
    (Except Error Outcome × Scene σ) × σ :=
  match scene with
  | .adLib a => unchanged (.adLib a) a.attempt s
  | .publish p => unchanged (.publish p) (p.attempt registry) s
  | .invoke i => unchanged (.invoke i) (i.attempt registry) s
  | .send m => unchanged (.send m) (m.attempt registry) s
  | .put p => unchanged (.put p) (p.attempt registry) s
  | .poll p => unchanged (.poll p) p.attempt s
  | .waitRecord w =>
    let ((result, w), s) := w.attempt registry s
    ((result, .waitRecord w), s)
  | .waitLog w =>
    let ((result, w), s) := w.attempt registry s
    ((result, .waitLog w), s)
  | .pause p => unchanged (.pause p) p.attempt s
  | .shell a => unchanged (.shell a) (a.attempt registry) s
  | .shellPoll p => unchanged (.shellPoll p) (p.attempt registry) s
  | .resolve r => unchanged (.resolve r) (r.attempt registry) s

instance : Playable (Scene σ) σ where
  label := label
  attempt := attempt

end Scene

end StackPlaybook
