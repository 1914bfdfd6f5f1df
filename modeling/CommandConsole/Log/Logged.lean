import CommandConsole.Log.Level

/-!
# Logged results

`Logged α` is a result together with the log records that were written on the way to it, in
order. A computation can add records but never read them, so nothing that the console decides can
depend on its own log.

* `Logged.emit` writes one record; `pure` writes none; `bind` appends.
* The instances are lawful.
-/

namespace CommandConsole.Log

/-- A value and the records written while it was computed. -/
structure Logged (α : Type) where
  /-- The result. -/
  value : α
  /-- The records written on the way, the oldest first. -/
  records : List Record

namespace Logged

/-- A step that writes one record. -/
def emit (record : Record) : Logged Unit := ⟨(), [record]⟩

/-- The first computation, then the one made from its value. -/
def andThen {α β : Type} (first : Logged α) (next : α → Logged β) : Logged β :=
  let second := next first.value
  ⟨second.value, first.records ++ second.records⟩

instance : Monad Logged where
  pure a := ⟨a, []⟩
  bind := andThen

variable {α β : Type}

@[simp]
theorem value_pure (a : α) : (pure a : Logged α).value = a := rfl

@[simp]
theorem records_pure (a : α) : (pure a : Logged α).records = [] := rfl

@[simp]
theorem value_bind (m : Logged α) (f : α → Logged β) : (m >>= f).value = (f m.value).value := rfl

@[simp]
theorem records_bind (m : Logged α) (f : α → Logged β) :
    (m >>= f).records = m.records ++ (f m.value).records := rfl

@[simp]
theorem value_map (f : α → β) (m : Logged α) : (f <$> m).value = f m.value := rfl

@[simp]
theorem records_map (f : α → β) (m : Logged α) : (f <$> m).records = m.records := by
  show m.records ++ [] = m.records
  simp

@[simp]
theorem value_emit (record : Record) : (emit record).value = () := rfl

@[simp]
theorem records_emit (record : Record) : (emit record).records = [record] := rfl

@[ext]
theorem eq_of_value_of_records {a b : Logged α} (hv : a.value = b.value)
    (hr : a.records = b.records) : a = b := by
  cases a
  cases b
  simp_all

instance : LawfulMonad Logged :=
  LawfulMonad.mk' Logged
    (fun _ => by ext1 <;> simp)
    (fun _ _ => by ext1 <;> simp)
    (fun _ _ _ => by ext1 <;> simp [List.append_assoc])

end Logged

end CommandConsole.Log
