/-
What a URL of the network means, whichever way it is written: with the default port or none, with slashes or
backslashes, and with or without steps of the path to the directory itself and to the one above. Characters that a URL
may write as "%xx" are left as they are written.
-/
import EdgeCache.Address.Origin

namespace EdgeCache.Address

open EdgeCache.Text

namespace Url

/-- the segment names the directory that the path has led to -/
def isHere (segment : List Char) : Bool := [".", "%2e"].contains (lower (String.ofList segment))

def isAbove (segment : List Char) : Bool :=
  ["..", ".%2e", "%2e.", "%2e%2e"].contains (lower (String.ofList segment))

/-- the path with one more segment, which may be its last one -/
def follow (path : List (List Char)) (segment : List Char) (last : Bool) : List (List Char) :=
  let stay := if last then [[]] else []
  if isAbove segment then path.dropLast ++ stay
  else if isHere segment then path ++ stay
  else path ++ [segment]

/-- the path with the segments of a text, of which the first one has begun -/
def walk (path : List (List Char)) (segment : List Char) : List Char → List (List Char)
  | [] => follow path segment true
  | c :: cs => if c = '/' ∨ c = '\\' then walk (follow path segment false) [] cs else walk path (segment ++ [c]) cs

/-- the segments of a path, which begins with a slash or is empty -/
def segments (path : List Char) : List (List Char) := walk [] [] (path.drop 1)

end Url

/-- what a URL of the network means -/
structure Meaning where
  scheme : String
  userInfo : Option (List Char)
  host : Option Host
  /-- the port that it leads to -/
  port : Nat
  path : List (List Char)
  query : Option (List Char)
  fragment : Option (List Char)
deriving DecidableEq

namespace Meaning

/-- the path that an empty path stands for -/
def root : List (List Char) := [[]]

/-- scheme, host and port, and nothing else -/
def site (m : Meaning) : Meaning := { m with userInfo := none, path := root, query := none, fragment := none }

end Meaning

def Url.meaning (url : Url) : Meaning where
  scheme := url.scheme
  userInfo := url.userInfo
  host := url.host
  port := url.port.getD (Origin.defaultPort url.scheme)
  path := segments url.path
  query := url.query
  fragment := url.fragment

/-- a URL has nothing but scheme, host and port: no user information, no path but the root, no query and no fragment -/
def Url.IsSite (url : Url) : Prop :=
  url.userInfo = none ∧ segments url.path = Meaning.root ∧ url.query = none ∧ url.fragment = none

end EdgeCache.Address
