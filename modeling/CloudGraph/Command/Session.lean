import CloudGraph.Command.Host
import CloudGraph.Files.Store

/-!
# Sessions

A host in memory: files, a server that gives every request the same reply or refuses it, and all
that was printed. Requests reach the server over plain connections only.
-/

namespace CloudGraph

structure Session where
  files : FileStore
  server : Web.Connection := .refused
  /-- The requests that were answered. -/
  requests : List Web.Request := []
  output : String := ""
  messages : String := ""

namespace Session

/-- Change the files, unless there is a fault. -/
def change (s : Session) (files : Except FileFault FileStore) : Except FileFault Unit × Session :=
  match files with
  | .ok files => (.ok (), { s with files })
  | .error fault => (.error fault, s)

/-- Send a request to the server. -/
def connect (s : Session) (request : Web.Request) : Web.Connection × Session :=
  match s.server with
  | .refused => (.refused, s)
  | .answered reply =>
    if request.url.secure then (.refused, s)
    else (.answered reply, { s with requests := s.requests ++ [request] })

instance : Host (StateM Session) where
  isThere path := fun s => (s.files.isThere path, s)
  read path := fun s => (s.files.read path, s)
  isFolder path := fun s => (s.files.leadsToFolder path, s)
  makeFolder path := fun s => s.change (s.files.makeFolder path)
  write path text := fun s => s.change (s.files.write path text)
  send request := fun s => s.connect request
  print text := fun s => ((), { s with output := s.output ++ text })
  printMessage text := fun s => ((), { s with messages := s.messages ++ text })

end Session

end CloudGraph
