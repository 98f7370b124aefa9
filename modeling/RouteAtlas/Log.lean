set_option autoImplicit false

namespace RouteAtlas

inductive Level where
  | debug
  | info
  | warn
  deriving DecidableEq, Repr

structure Message where
  level : Level
  text : String
  deriving DecidableEq, Repr

structure Logged (α : Type) where
  value : α
  log : List Message

namespace Logged

variable {α β : Type}

def pure (a : α) : Logged α := ⟨a, []⟩

def bind (m : Logged α) (f : α → Logged β) : Logged β :=
  ⟨(f m.value).value, m.log ++ (f m.value).log⟩

instance : Monad Logged where
  pure := pure
  bind := bind

@[simp] theorem value_pure (a : α) : (Pure.pure a : Logged α).value = a := rfl

@[simp] theorem log_pure (a : α) : (Pure.pure a : Logged α).log = [] := rfl

@[simp] theorem value_bind (m : Logged α) (f : α → Logged β) :
    (m >>= f).value = (f m.value).value := rfl

@[simp] theorem log_bind (m : Logged α) (f : α → Logged β) :
    (m >>= f).log = m.log ++ (f m.value).log := rfl

theorem bind_congr {m : Logged α} {f g : α → Logged β} (h : f m.value = g m.value) :
    m >>= f = m >>= g := by
  change bind m f = bind m g
  rw [bind, bind, h]

def debug (text : String) : Logged Unit := ⟨(), [⟨.debug, text⟩]⟩

def info (text : String) : Logged Unit := ⟨(), [⟨.info, text⟩]⟩

def warn (text : String) : Logged Unit := ⟨(), [⟨.warn, text⟩]⟩

def gather (step : α → Logged (List β)) : List α → Logged (List β)
  | [] => Pure.pure []
  | a :: rest => do
    let first ← step a
    let others ← gather step rest
    return first ++ others

@[simp] theorem value_gather (step : α → Logged (List β)) (as : List α) :
    (gather step as).value = as.flatMap fun a => (step a).value := by
  induction as with
  | nil => rfl
  | cons a rest ih => simp [gather, ih]

@[simp] theorem log_gather (step : α → Logged (List β)) (as : List α) :
    (gather step as).log = as.flatMap fun a => (step a).log := by
  induction as with
  | nil => rfl
  | cons a rest ih => simp [gather, ih]

end Logged

end RouteAtlas
