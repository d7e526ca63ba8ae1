import ModbusCpp.RequestHandler

/-!
# The server

`server.cpp`: what a session does with what it receives.  The network library
is started without a match condition and hands over the bytes of the stream in
chunks, as they arrive.
-/

namespace ModbusCpp

open Method

/-- The data table and the packets that a session was told to send. -/
structure Server where
  dataTable : Table
  sent : List Packet

namespace Server

variable [Struc]

/-- `server::on_receive(session_ptr, raw_packet)` -/
def onReceive (rawPacket : ByteBuffer) : Member Server Unit := do
  let response ← onPart dataTable (fun table server => { server with dataTable := table })
    (RequestHandler.handle rawPacket)
  if !response.isEmpty then
    modify fun server => { server with sent := server.sent ++ [response] }

/-- The calls for consecutive chunks of a session's stream. -/
def receiveAll : List ByteBuffer → Member Server Unit
  | [] => pure ()
  | chunk :: chunks => do
      onReceive chunk
      receiveAll chunks

end Server

end ModbusCpp
