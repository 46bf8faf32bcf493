import DirectoryLogin.Act
import DirectoryLogin.Entry
import DirectoryLogin.Environment

namespace DirectoryLogin

/-- A directory client over a world `σ` whose connections are named by `κ`. -/
structure Service (σ κ : Type) where
  /-- Whether a connection can authenticate in this way at all. -/
  supports : Mechanism → Bool
  /-- Opens a connection and binds. A refused bind is an error and leaves no connection. -/
  connect : Environment → σ → Except Error κ × σ
  /-- Starts a search with a filter below a base, for the attributes given. -/
  search : κ → (base : String) → Scope → (filter : String) → (attributes : List String) → σ →
    Except Error Unit × σ
  /-- The next item of the running search, if there is one. -/
  next : κ → σ → Except Error (Option Item) × σ
  /-- Gives the running search up. -/
  abandon : κ → σ → Except Error Unit × σ
  close : κ → σ → Except Error Unit × σ
  /-- Whether the connection can no longer be used. -/
  isClosed : κ → σ → Bool
  /-- A bound on the items that the running search still has. -/
  remaining : κ → σ → Nat
  /-- Searches end: an item uses the bound up. -/
  next_lt : ∀ {c w item w'}, next c w = (.ok (some item), w') → remaining c w' < remaining c w

/-- A Kerberos login: whether the password is the principal's. -/
abbrev Kerberos (σ : Type) := (principal password : String) → Act σ (Except Error Bool)

end DirectoryLogin
