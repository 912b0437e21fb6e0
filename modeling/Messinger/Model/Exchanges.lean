/-
This file models the runs of the API: clients send requests, and each one is handled in turn.
-/
import Messinger.Library.Runs
import Messinger.Model.Router

namespace Messinger
open Library

/-- A request meets two environments, the one of its middlewares and the one of its controller. -/
structure Exchange where
  client : Nat
  middlewareEnv : Env
  env : Env
  request : Request

def replyTo (platform : Platform) (store : Store) (exchange : Exchange) : Reply :=
  (handle platform exchange.middlewareEnv exchange.env exchange.request store).1

def serve (platform : Platform) (store : Store) (exchange : Exchange) : Store :=
  (handle platform exchange.middlewareEnv exchange.env exchange.request store).2

/-- The seed runs on the empty database before the first request. -/
def seeded (platform : Platform) (env : Env) : Store := (adminSeed platform env {}).2

/-- This is the store that the exchange at the position meets. -/
def servedAt (platform : Platform) (seedEnv : Env) (exchanges : List Exchange) (position : Nat) : Store :=
  stateAt (serve platform) (seeded platform seedEnv) exchanges position

def Tokens.texts (tokens : Tokens) : List Text := [tokens.accessToken, tokens.refreshToken]

def CookieChange.texts : CookieChange → List Text
  | .unchanged => []
  | .cleared => []
  | .tokens pair => pair.texts

/-- These are the tokens that the answer hands to the client. -/
def Reply.tokens (reply : Reply) : List Text :=
  reply.cookies.texts ++ reply.headers.toList.flatMap Tokens.texts

end Messinger
