/-
This file models the manager of the WebSocket connections.
-/
import Messinger.Library.Index
import Messinger.Model.Types

namespace Messinger
open Library

/-- The socket of a connection is known by the identifier of the connection. -/
structure Connection where
  id : Uuid
  userId : Option Uuid := none
  sessionId : Option Uuid := none
  deriving DecidableEq, Repr

/-- The callback of a socket keeps its connection object after the object has left the map. -/
structure ConnectionManager where
  objects : List Connection := []
  connections : List Uuid := []
  userConnections : Index Uuid Uuid := []
  nextId : Uuid := 0
  deriving DecidableEq, Repr

namespace ConnectionManager

/-- This is `connections.get`. -/
def get (manager : ConnectionManager) (connectionId : Uuid) : Option Connection :=
  if connectionId ∈ manager.connections then lookup Connection.id connectionId manager.objects else none

/-- This is `connection.userId`. -/
def userOf (manager : ConnectionManager) (connectionId : Uuid) : Option Uuid :=
  (lookup Connection.id connectionId manager.objects).bind Connection.userId

def register (manager : ConnectionManager) : Connection × ConnectionManager :=
  let connection : Connection := { id := manager.nextId }
  (connection, { manager with
    objects := manager.objects ++ [connection]
    connections := manager.connections ++ [connection.id]
    nextId := manager.nextId + 1 })

def removeUserConnection (userId connectionId : Uuid) (manager : ConnectionManager) : ConnectionManager :=
  { manager with userConnections := detach userId connectionId manager.userConnections }

/-- Only the set of the current user is cleaned. -/
def unregister (connectionId : Uuid) (manager : ConnectionManager) : ConnectionManager :=
  match manager.get connectionId with
  | none => manager
  | some connection =>
      let removed := connection.userId.elim manager fun userId =>
        removeUserConnection userId connection.id manager
      { removed with connections := removed.connections.filter (· ≠ connectionId) }

def updateConnection (connectionId : Uuid) (change : Connection → Connection) (manager : ConnectionManager) :
    ConnectionManager :=
  { manager with
    objects := updateWhere (fun object => decide (object.id = connectionId)) change manager.objects }

def attachUser (connectionId userId : Uuid) (manager : ConnectionManager) : ConnectionManager :=
  let owned := updateConnection connectionId
    (fun connection => { connection with userId := some userId }) manager
  { owned with userConnections := attach userId connectionId owned.userConnections }

def getUserConnections (manager : ConnectionManager) (userId : Uuid) : List Connection :=
  match lookup Prod.fst userId manager.userConnections with
  | none => []
  | some entry => entry.2.filterMap manager.get

def count (manager : ConnectionManager) : Nat := manager.connections.length

def getAllConnections (manager : ConnectionManager) : List Connection :=
  manager.connections.filterMap manager.get

/-- The server sets the fields of the object and files it, whether or not it is still registered. -/
def authenticate (connectionId userId sessionId : Uuid) (manager : ConnectionManager) : ConnectionManager :=
  match lookup Connection.id connectionId manager.objects with
  | none => manager
  | some _ =>
      attachUser connectionId userId (updateConnection connectionId
        (fun connection => { connection with userId := some userId, sessionId := some sessionId }) manager)

end ConnectionManager

/-- These are the steps that the server takes on the manager. -/
inductive ConnectionStep where
  | register
  | authenticate (connectionId userId sessionId : Uuid)
  | unregister (connectionId : Uuid)
  deriving DecidableEq, Repr

def ConnectionManager.step (manager : ConnectionManager) : ConnectionStep → ConnectionManager
  | .register => manager.register.2
  | .authenticate connectionId userId sessionId => manager.authenticate connectionId userId sessionId
  | .unregister connectionId => manager.unregister connectionId

end Messinger
