import BenchCharts.Journal.Event

namespace BenchCharts

structure Logged (ε α : Type) where
  events : List Event
  result : Except ε α

namespace Logged

variable {ε ε' α β : Type}

def of (result : Except ε α) : Logged ε α := ⟨[], result⟩
def note (event : Event) : Logged ε Unit := ⟨[event], .ok ()⟩
def fail (error : ε) : Logged ε α := ⟨[], .error error⟩

def andThen (x : Logged ε α) (f : α → Logged ε β) : Logged ε β :=
  match x.result with
  | .error error => ⟨x.events, .error error⟩
  | .ok a => ⟨x.events ++ (f a).events, (f a).result⟩

instance : Monad (Logged ε) where
  pure a := ⟨[], .ok a⟩
  bind := andThen

def mapError (f : ε → ε') (x : Logged ε α) : Logged ε' α := ⟨x.events, x.result.mapError f⟩

@[simp] theorem events_pure (a : α) : (pure a : Logged ε α).events = [] := rfl
@[simp] theorem result_pure (a : α) : (pure a : Logged ε α).result = .ok a := rfl
@[simp] theorem result_mapError (f : ε → ε') (x : Logged ε α) :
    (x.mapError f).result = x.result.mapError f := rfl
@[simp] theorem events_mapError (f : ε → ε') (x : Logged ε α) : (x.mapError f).events = x.events := rfl

theorem result_bind (x : Logged ε α) (f : α → Logged ε β) :
    (x >>= f).result = x.result.bind fun a => (f a).result := by
  show (andThen x f).result = _
  unfold andThen
  cases x.result <;> rfl

end Logged
end BenchCharts
