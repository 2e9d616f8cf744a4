import ClassicS7.Histories.SessionRuns
import ClassicS7.Histories.ConversationRuns
import ClassicS7.Wire.UserData
import ClassicS7.Oracle.Minimize
import ClassicS7.Oracle.Correspondence
import ClassicS7.Oracle.Management
import ClassicS7.Oracle.Operation
import ClassicS7.Oracle.Diagnostics
import ClassicS7.Oracle.Requests
import ClassicS7.Oracle.Session
import ClassicS7.Oracle.Conversation
import ClassicS7.Client.Gate
import ClassicS7.Client.Receiving
import ClassicS7.Client.Provenance
import ClassicS7.Oracle.OverlapRuns
import ClassicS7.Oracle.MultiBatchingRuns
