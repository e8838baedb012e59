import Mathlib.Logic.Basic

/-! Connections to a transactional database. A change outside a transaction opens one;
a refused change undoes only itself; only a commit or a rollback closes the transaction. -/

namespace FortifyLab

inductive SqlError where
  | integrity
  | operational
  deriving DecidableEq

inductive Statement (Query Change : Type) where
  | query (query : Query)
  | change (change : Change)
  | beginImmediate
  | commit
  | rollback

/-- A change answers how many rows it met. -/
abbrev Statement.Answer {Query Change : Type} (Rows : Query → Type) :
    Statement Query Change → Type
  | .query asked => Rows asked
  | .change _ => Except SqlError Nat
  | .beginImmediate => Except SqlError Unit
  | .commit => Unit
  | .rollback => Unit

/-- What a program with a connection asks: a statement, or something else of the world. -/
inductive DatabaseRequest (Query Change Outside : Type) where
  | statement (statement : Statement Query Change)
  | outside (request : Outside)

abbrev DatabaseRequest.Answer {Query Change Outside : Type} (Rows : Query → Type)
    (Reply : Outside → Type) : DatabaseRequest Query Change Outside → Type
  | .statement sql => sql.Answer Rows
  | .outside asked => Reply asked

/-- What statements read, and what a change makes of the database; `none` where it
would break a constraint. -/
structure Tables (Database Query Change : Type) (Rows : Query → Type) where
  read : Database → (query : Query) → Rows query
  write : Database → Change → Option (Nat × Database)

/-- One connection: what was committed, and inside a transaction what it has made of it. -/
structure Connection (Database : Type) where
  saved : Database
  held : Option Database

namespace Connection

variable {Database Query Change Outside : Type} {Rows : Query → Type} {Reply : Outside → Type}

/-- What the connection's own queries see. -/
def seen (connection : Connection Database) : Database :=
  connection.held.getD connection.saved

def inTransaction (connection : Connection Database) : Bool := connection.held.isSome

/-- A connection outside any transaction. -/
def closed (database : Database) : Connection Database := ⟨database, none⟩

@[simp] theorem seen_closed (database : Database) : (closed database).seen = database := rfl

@[simp] theorem seen_held (saved held : Database) :
    (⟨saved, some held⟩ : Connection Database).seen = held := rfl

@[simp] theorem inTransaction_closed (database : Database) :
    (closed database).inTransaction = false := rfl

@[simp] theorem inTransaction_held (saved held : Database) :
    (⟨saved, some held⟩ : Connection Database).inTransaction = true := rfl

theorem eq_closed {connection : Connection Database}
    (outside : connection.inTransaction = false) : connection = closed connection.seen := by
  rcases connection with ⟨saved, held⟩
  cases held with
  | none => rfl
  | some held => cases outside

variable (tables : Tables Database Query Change Rows)

def answer (connection : Connection Database) :
    (statement : Statement Query Change) → statement.Answer Rows
  | .query query => tables.read connection.seen query
  | .change change =>
      match tables.write connection.seen change with
      | some (count, _) => .ok count
      | none => .error .integrity
  | .beginImmediate => if connection.inTransaction then .error .operational else .ok ()
  | .commit => ()
  | .rollback => ()

def after (connection : Connection Database) : Statement Query Change → Connection Database
  | .query _ => connection
  | .change change =>
      match tables.write connection.seen change with
      | some (_, database) => ⟨connection.saved, some database⟩
      | none => ⟨connection.saved, some connection.seen⟩
  | .beginImmediate => ⟨connection.saved, some connection.seen⟩
  | .commit => closed connection.seen
  | .rollback => closed connection.saved

/-- One connection with nothing else on the database, and the number of requests that went
to the rest of the world; `world` tells what these were answered. -/
def handle (world : Nat → (request : Outside) → Reply request)
    (state : Connection Database × Nat) :
    (request : DatabaseRequest Query Change Outside) →
      request.Answer Rows Reply × (Connection Database × Nat)
  | .statement sql => (state.1.answer tables sql, (state.1.after tables sql, state.2))
  | .outside asked => (world state.2 asked, (state.1, state.2 + 1))

end Connection

end FortifyLab
