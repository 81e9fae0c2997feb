-- SUMMARY: The syllables of Hangul in two systems of romanization.

/-!
# Syllable tables

Each table gives the Latin letters of a common syllable. A syllable that is not in the table has
no romanization.
-/

namespace GenreProse

namespace Hangul

/-- The Revised Romanization of Korean, by syllable. -/
def revisedTable : List (Char × String) :=
  [
    ('가', "ga"), ('각', "gak"), ('간', "gan"), ('갈', "gal"), ('감', "gam"), ('갑', "gap"),
    ('강', "gang"), ('개', "gae"), ('객', "gaek"), ('갸', "gya"), ('걔', "gyae"), ('거', "geo"),
    ('건', "geon"), ('걸', "geol"), ('검', "geom"), ('겁', "geop"), ('것', "geot"), ('겉', "geot"),
    ('게', "ge"), ('겨', "gyeo"), ('견', "gyeon"), ('결', "gyeol"), ('겸', "gyeom"), ('경', "gyeong"),
    ('계', "gye"), ('고', "go"), ('곡', "gok"), ('곤', "gon"), ('골', "gol"), ('곰', "gom"),
    ('곱', "gop"), ('공', "gong"), ('곶', "got"), ('과', "gwa"), ('관', "gwan"), ('괄', "gwal"),
    ('광', "gwang"), ('괘', "gwae"), ('괴', "goe"), ('교', "gyo"), ('구', "gu"), ('국', "guk"),
    ('군', "gun"), ('굴', "gul"), ('굵', "guk"), ('굽', "gup"), ('궁', "gung"), ('궈', "gwo"),
    ('권', "gwon"), ('궐', "gwol"), ('궤', "gwe"), ('귀', "gwi"), ('규', "gyu"), ('균', "gyun"),
    ('귤', "gyul"), ('그', "geu"), ('극', "geuk"), ('근', "geun"), ('글', "geul"), ('금', "geum"),
    ('급', "geup"), ('긍', "geung"), ('긔', "gui"), ('기', "gi"), ('긴', "gin"), ('길', "gil"),
    ('김', "gim"), ('깃', "git"), ('깊', "gip"), ('까', "kka"), ('깍', "kkak"), ('깎', "kkak"),
    ('깐', "kkan"), ('깔', "kkal"), ('깜', "kkam"), ('깝', "kkap"), ('깡', "kkang"), ('깨', "kkae"),
    ('꺄', "kkya"), ('꺠', "kkyae"), ('꺼', "kkeo"), ('껍', "kkeop"), ('껏', "kkeot"),
    ('껑', "kkeong"), ('께', "kke"), ('껴', "kkyeo"), ('꼐', "kkye"), ('꼬', "kko"), ('꼭', "kkok"),
    ('꼴', "kkol"), ('꼼', "kkom"), ('꽃', "kkot"), ('꽈', "kkwa"), ('꽉', "kkwak"), ('꽝', "kkwang"),
    ('꽤', "kkwae"), ('꾀', "kkoe"), ('꾜', "kkyo"), ('꾸', "kku"), ('꾼', "kkun"), ('꿀', "kkul"),
    ('꿈', "kkum"), ('꿍', "kkung"), ('꿔', "kkwo"), ('꿩', "kkwong"), ('꿰', "kkwe"), ('뀌', "kkwi"),
    ('뀨', "kkyu"), ('끄', "kkeu"), ('끈', "kkeun"), ('끌', "kkeul"), ('끓', "kkeul"),
    ('끔', "kkeum"), ('끗', "kkeut"), ('끝', "kkeut"), ('끠', "kkui"), ('끼', "kki"), ('낀', "kkin"),
    ('낄', "kkil"), ('낌', "kkim"), ('나', "na"), ('낙', "nak"), ('낚', "nak"), ('난', "nan"),
    ('날', "nal"), ('낡', "nak"), ('남', "nam"), ('납', "nap"), ('낫', "nat"), ('났', "nat"),
    ('낭', "nang"), ('낮', "nat"), ('낯', "nat"), ('낱', "nat"), ('낳', "nat"), ('내', "nae"),
    ('냄', "naem"), ('냉', "naeng"), ('냐', "nya"), ('냥', "nyang"), ('냬', "nyae"), ('너', "neo"),
    ('넉', "neok"), ('넌', "neon"), ('널', "neol"), ('넓', "neop"), ('넘', "neom"), ('넣', "neot"),
    ('네', "ne"), ('넥', "nek"), ('넨', "nen"), ('넷', "net"), ('녀', "nyeo"), ('녁', "nyeok"),
    ('년', "nyeon"), ('념', "nyeom"), ('녕', "nyeong"), ('녘', "nyeok"), ('녜', "nye"), ('노', "no"),
    ('녹', "nok"), ('논', "non"), ('놀', "nol"), ('놈', "nom"), ('농', "nong"), ('높', "nop"),
    ('놓', "not"), ('놔', "nwa"), ('놰', "nwae"), ('뇌', "noe"), ('뇨', "nyo"), ('누', "nu"),
    ('눈', "nun"), ('눌', "nul"), ('눠', "nwo"), ('눼', "nwe"), ('뉘', "nwi"), ('뉴', "nyu"),
    ('느', "neu"), ('늘', "neul"), ('늠', "neum"), ('능', "neung"), ('늦', "neut"), ('늬', "nui"),
    ('니', "ni"), ('닉', "nik"), ('닌', "nin"), ('닐', "nil"), ('님', "nim"), ('닙', "nip"),
    ('다', "da"), ('닥', "dak"), ('닦', "dak"), ('단', "dan"), ('닫', "dat"), ('달', "dal"),
    ('닭', "dak"), ('닮', "dam"), ('담', "dam"), ('답', "dap"), ('닷', "dat"), ('당', "dang"),
    ('닿', "dat"), ('대', "dae"), ('댁', "daek"), ('댄', "daen"), ('댐', "daem"), ('댓', "daet"),
    ('댜', "dya"), ('댸', "dyae"), ('더', "deo"), ('덕', "deok"), ('던', "deon"), ('덜', "deol"),
    ('덤', "deom"), ('덧', "deot"), ('덩', "deong"), ('덮', "deop"), ('데', "de"), ('덴', "den"),
    ('델', "del"), ('뎌', "dyeo"), ('뎨', "dye"), ('도', "do"), ('독', "dok"), ('돈', "don"),
    ('돋', "dot"), ('돌', "dol"), ('돔', "dom"), ('돕', "dop"), ('동', "dong"), ('돠', "dwa"),
    ('돼', "dwae"), ('됐', "dwaet"), ('되', "doe"), ('됴', "dyo"), ('두', "du"), ('둑', "duk"),
    ('둔', "dun"), ('둘', "dul"), ('둠', "dum"), ('둥', "dung"), ('둬', "dwo"), ('뒈', "dwe"),
    ('뒤', "dwi"), ('뒷', "dwit"), ('듀', "dyu"), ('드', "deu"), ('득', "deuk"), ('든', "deun"),
    ('듣', "deut"), ('들', "deul"), ('듬', "deum"), ('듭', "deup"), ('등', "deung"), ('듸', "dui"),
    ('디', "di"), ('딩', "ding"), ('따', "tta"), ('딱', "ttak"), ('딴', "ttan"), ('딸', "ttal"),
    ('땀', "ttam"), ('땅', "ttang"), ('때', "ttae"), ('땐', "ttaen"), ('땨', "ttya"), ('떄', "ttyae"),
    ('떠', "tteo"), ('떡', "tteok"), ('떤', "tteon"), ('떨', "tteol"), ('떼', "tte"), ('뗘', "ttyeo"),
    ('뗴', "ttye"), ('또', "tto"), ('똑', "ttok"), ('똬', "ttwa"), ('뙈', "ttwae"), ('뙤', "ttoe"),
    ('뚀', "ttyo"), ('뚜', "ttu"), ('뚝', "ttuk"), ('뚸', "ttwo"), ('뛔', "ttwe"), ('뛰', "ttwi"),
    ('뛴', "ttwin"), ('뜌', "ttyu"), ('뜨', "tteu"), ('뜩', "tteuk"), ('뜬', "tteun"),
    ('뜰', "tteul"), ('뜻', "tteut"), ('띄', "ttui"), ('띠', "tti"), ('라', "ra"), ('락', "rak"),
    ('란', "ran"), ('랄', "ral"), ('람', "ram"), ('랍', "rap"), ('랑', "rang"), ('랗', "rat"),
    ('래', "rae"), ('랫', "raet"), ('랭', "raeng"), ('랴', "rya"), ('략', "ryak"), ('량', "ryang"),
    ('럐', "ryae"), ('러', "reo"), ('럭', "reok"), ('런', "reon"), ('럴', "reol"), ('럼', "reom"),
    ('럽', "reop"), ('렁', "reong"), ('렇', "reot"), ('레', "re"), ('려', "ryeo"), ('력', "ryeok"),
    ('련', "ryeon"), ('렬', "ryeol"), ('렴', "ryeom"), ('렵', "ryeop"), ('령', "ryeong"),
    ('례', "rye"), ('로', "ro"), ('록', "rok"), ('론', "ron"), ('롤', "rol"), ('롬', "rom"),
    ('롭', "rop"), ('롱', "rong"), ('롸', "rwa"), ('뢔', "rwae"), ('뢰', "roe"), ('료', "ryo"),
    ('룡', "ryong"), ('루', "ru"), ('룩', "ruk"), ('룬', "run"), ('룰', "rul"), ('룸', "rum"),
    ('룹', "rup"), ('뤄', "rwo"), ('뤠', "rwe"), ('뤼', "rwi"), ('류', "ryu"), ('률', "ryul"),
    ('륨', "ryum"), ('륭', "ryung"), ('르', "reu"), ('륵', "reuk"), ('른', "reun"), ('를', "reul"),
    ('름', "reum"), ('릅', "reup"), ('릇', "reut"), ('릉', "reung"), ('릐', "rui"), ('리', "ri"),
    ('릭', "rik"), ('린', "rin"), ('릴', "ril"), ('림', "rim"), ('립', "rip"), ('릿', "rit"),
    ('링', "ring"), ('마', "ma"), ('막', "mak"), ('만', "man"), ('많', "man"), ('말', "mal"),
    ('맑', "mak"), ('맘', "mam"), ('맛', "mat"), ('망', "mang"), ('맞', "mat"), ('맡', "mat"),
    ('매', "mae"), ('맥', "maek"), ('맨', "maen"), ('맵', "maep"), ('맺', "maet"), ('먀', "mya"),
    ('먜', "myae"), ('머', "meo"), ('멋', "meot"), ('멍', "meong"), ('메', "me"), ('멘', "men"),
    ('멜', "mel"), ('며', "myeo"), ('멸', "myeol"), ('명', "myeong"), ('몇', "myeot"), ('몌', "mye"),
    ('모', "mo"), ('목', "mok"), ('몰', "mol"), ('몸', "mom"), ('몹', "mop"), ('못', "mot"),
    ('몽', "mong"), ('뫄', "mwa"), ('뫠', "mwae"), ('뫼', "moe"), ('묘', "myo"), ('무', "mu"),
    ('묵', "muk"), ('묶', "muk"), ('문', "mun"), ('묻', "mut"), ('물', "mul"), ('뭇', "mut"),
    ('뭐', "mwo"), ('뭬', "mwe"), ('뮈', "mwi"), ('뮤', "myu"), ('므', "meu"), ('믜', "mui"),
    ('미', "mi"), ('민', "min"), ('믿', "mit"), ('밀', "mil"), ('밉', "mip"), ('밑', "mit"),
    ('바', "ba"), ('박', "bak"), ('밖', "bak"), ('반', "ban"), ('받', "bat"), ('발', "bal"),
    ('밝', "bak"), ('밤', "bam"), ('밥', "bap"), ('방', "bang"), ('밭', "bat"), ('배', "bae"),
    ('백', "baek"), ('밴', "baen"), ('뱀', "baem"), ('뱃', "baet"), ('뱌', "bya"), ('뱨', "byae"),
    ('버', "beo"), ('벅', "beok"), ('번', "beon"), ('벌', "beol"), ('범', "beom"), ('법', "beop"),
    ('벗', "beot"), ('벙', "beong"), ('베', "be"), ('벼', "byeo"), ('벽', "byeok"), ('변', "byeon"),
    ('별', "byeol"), ('병', "byeong"), ('볕', "byeot"), ('볘', "bye"), ('보', "bo"), ('복', "bok"),
    ('볶', "bok"), ('본', "bon"), ('볼', "bol"), ('봄', "bom"), ('봅', "bop"), ('봇', "bot"),
    ('봉', "bong"), ('봐', "bwa"), ('봬', "bwae"), ('뵈', "boe"), ('뵤', "byo"), ('부', "bu"),
    ('북', "buk"), ('분', "bun"), ('불', "bul"), ('붉', "buk"), ('붐', "bum"), ('붓', "but"),
    ('붕', "bung"), ('붙', "but"), ('붜', "bwo"), ('붸', "bwe"), ('뷔', "bwi"), ('뷰', "byu"),
    ('브', "beu"), ('븨', "bui"), ('비', "bi"), ('빈', "bin"), ('빌', "bil"), ('빔', "bim"),
    ('빗', "bit"), ('빙', "bing"), ('빚', "bit"), ('빛', "bit"), ('빠', "ppa"), ('빡', "ppak"),
    ('빨', "ppal"), ('빵', "ppang"), ('빼', "ppae"), ('빽', "ppaek"), ('뺘', "ppya"), ('뺴', "ppyae"),
    ('뻐', "ppeo"), ('뻔', "ppeon"), ('뻬', "ppe"), ('뼈', "ppyeo"), ('뼘', "ppyeom"), ('뼤', "ppye"),
    ('뽀', "ppo"), ('뽑', "ppop"), ('뽜', "ppwa"), ('뽸', "ppwae"), ('뾔', "ppoe"), ('뾰', "ppyo"),
    ('뿌', "ppu"), ('뿐', "ppun"), ('뿨', "ppwo"), ('쀄', "ppwe"), ('쀠', "ppwi"), ('쀼', "ppyu"),
    ('쁘', "ppeu"), ('쁜', "ppeun"), ('쁴', "ppui"), ('삐', "ppi"), ('사', "sa"), ('삭', "sak"),
    ('산', "san"), ('살', "sal"), ('삶', "sam"), ('삼', "sam"), ('삽', "sap"), ('상', "sang"),
    ('새', "sae"), ('색', "saek"), ('샌', "saen"), ('생', "saeng"), ('샤', "sya"), ('섀', "syae"),
    ('서', "seo"), ('석', "seok"), ('섞', "seok"), ('선', "seon"), ('설', "seol"), ('섬', "seom"),
    ('섭', "seop"), ('섯', "seot"), ('성', "seong"), ('세', "se"), ('섹', "sek"), ('센', "sen"),
    ('셀', "sel"), ('셈', "sem"), ('셋', "set"), ('셔', "syeo"), ('션', "syeon"), ('셰', "sye"),
    ('소', "so"), ('속', "sok"), ('손', "son"), ('솔', "sol"), ('솜', "som"), ('송', "song"),
    ('솨', "swa"), ('쇄', "swae"), ('쇠', "soe"), ('쇼', "syo"), ('수', "su"), ('숙', "suk"),
    ('순', "sun"), ('술', "sul"), ('숨', "sum"), ('숫', "sut"), ('숭', "sung"), ('숲', "sup"),
    ('숴', "swo"), ('쉐', "swe"), ('쉬', "swi"), ('슈', "syu"), ('스', "seu"), ('슨', "seun"),
    ('슬', "seul"), ('슴', "seum"), ('습', "seup"), ('승', "seung"), ('싀', "sui"), ('시', "si"),
    ('식', "sik"), ('신', "sin"), ('실', "sil"), ('싫', "sil"), ('심', "sim"), ('십', "sip"),
    ('싱', "sing"), ('싶', "sip"), ('싸', "ssa"), ('싹', "ssak"), ('싼', "ssan"), ('쌀', "ssal"),
    ('쌍', "ssang"), ('쌓', "ssat"), ('쌔', "ssae"), ('쌰', "ssya"), ('썌', "ssyae"), ('써', "sseo"),
    ('썩', "sseok"), ('썰', "sseol"), ('쎄', "sse"), ('쎠', "ssyeo"), ('쎼', "ssye"), ('쏘', "sso"),
    ('쏴', "sswa"), ('쐐', "sswae"), ('쐬', "ssoe"), ('쑈', "ssyo"), ('쑤', "ssu"), ('쑥', "ssuk"),
    ('쒀', "sswo"), ('쒜', "sswe"), ('쒸', "sswi"), ('쓔', "ssyu"), ('쓰', "sseu"), ('쓴', "sseun"),
    ('쓸', "sseul"), ('씀', "sseum"), ('씌', "ssui"), ('씨', "ssi"), ('씩', "ssik"), ('씬', "ssin"),
    ('씻', "ssit"), ('아', "a"), ('악', "ak"), ('안', "an"), ('앉', "an"), ('않', "an"), ('알', "al"),
    ('앓', "al"), ('암', "am"), ('압', "ap"), ('앗', "at"), ('았', "at"), ('앙', "ang"), ('앞', "ap"),
    ('애', "ae"), ('액', "aek"), ('앤', "aen"), ('앨', "ael"), ('앵', "aeng"), ('야', "ya"),
    ('약', "yak"), ('얀', "yan"), ('얇', "yap"), ('양', "yang"), ('얕', "yat"), ('얘', "yae"),
    ('어', "eo"), ('억', "eok"), ('언', "eon"), ('얻', "eot"), ('얼', "eol"), ('엄', "eom"),
    ('업', "eop"), ('없', "eop"), ('었', "eot"), ('엉', "eong"), ('엎', "eop"), ('에', "e"),
    ('엔', "en"), ('엘', "el"), ('엠', "em"), ('여', "yeo"), ('역', "yeok"), ('엮', "yeok"),
    ('연', "yeon"), ('열', "yeol"), ('염', "yeom"), ('엽', "yeop"), ('엿', "yeot"), ('였', "yeot"),
    ('영', "yeong"), ('옆', "yeop"), ('예', "ye"), ('오', "o"), ('옥', "ok"), ('온', "on"),
    ('올', "ol"), ('옮', "om"), ('옳', "ol"), ('옷', "ot"), ('옹', "ong"), ('와', "wa"),
    ('왕', "wang"), ('왜', "wae"), ('왠', "waen"), ('외', "oe"), ('왼', "oen"), ('요', "yo"),
    ('욕', "yok"), ('용', "yong"), ('우', "u"), ('욱', "uk"), ('운', "un"), ('울', "ul"), ('움', "um"),
    ('웃', "ut"), ('웅', "ung"), ('워', "wo"), ('원', "won"), ('월', "wol"), ('웨', "we"),
    ('웬', "wen"), ('웹', "wep"), ('위', "wi"), ('윗', "wit"), ('유', "yu"), ('윤', "yun"),
    ('율', "yul"), ('융', "yung"), ('으', "eu"), ('은', "eun"), ('을', "eul"), ('음', "eum"),
    ('읍', "eup"), ('응', "eung"), ('의', "ui"), ('이', "i"), ('읽', "ik"), ('잃', "il"), ('임', "im"),
    ('입', "ip"), ('잇', "it"), ('있', "it"), ('잉', "ing"), ('잊', "it"), ('잎', "ip"), ('자', "ja"),
    ('작', "jak"), ('잔', "jan"), ('잖', "jan"), ('잘', "jal"), ('잠', "jam"), ('잡', "jap"),
    ('잣', "jat"), ('장', "jang"), ('잦', "jat"), ('재', "jae"), ('잭', "jaek"), ('잼', "jaem"),
    ('쟁', "jaeng"), ('쟈', "jya"), ('쟤', "jyae"), ('저', "jeo"), ('적', "jeok"), ('전', "jeon"),
    ('절', "jeol"), ('젊', "jeom"), ('점', "jeom"), ('접', "jeop"), ('젓', "jeot"), ('정', "jeong"),
    ('젖', "jeot"), ('제', "je"), ('젠', "jen"), ('젤', "jel"), ('져', "jyeo"), ('졔', "jye"),
    ('조', "jo"), ('족', "jok"), ('존', "jon"), ('졸', "jol"), ('좀', "jom"), ('좁', "jop"),
    ('종', "jong"), ('좋', "jot"), ('좌', "jwa"), ('좍', "jwak"), ('좨', "jwae"), ('죄', "joe"),
    ('죠', "jyo"), ('주', "ju"), ('죽', "juk"), ('준', "jun"), ('줄', "jul"), ('줌', "jum"),
    ('줍', "jup"), ('중', "jung"), ('줘', "jwo"), ('줴', "jwe"), ('쥐', "jwi"), ('쥬', "jyu"),
    ('즈', "jeu"), ('즉', "jeuk"), ('즐', "jeul"), ('증', "jeung"), ('즤', "jui"), ('지', "ji"),
    ('직', "jik"), ('진', "jin"), ('질', "jil"), ('짐', "jim"), ('집', "jip"), ('짓', "jit"),
    ('징', "jing"), ('짙', "jit"), ('짚', "jip"), ('짜', "jja"), ('짝', "jjak"), ('짠', "jjan"),
    ('짧', "jjap"), ('짱', "jjang"), ('째', "jjae"), ('쨔', "jjya"), ('쨰', "jjyae"), ('쩌', "jjeo"),
    ('쩍', "jjeok"), ('쩨', "jje"), ('쪄', "jjyeo"), ('쪠', "jjye"), ('쪼', "jjo"), ('쪽', "jjok"),
    ('쫓', "jjot"), ('쫘', "jjwa"), ('쫴', "jjwae"), ('쬐', "jjoe"), ('쬬', "jjyo"), ('쭈', "jju"),
    ('쭉', "jjuk"), ('쭤', "jjwo"), ('쮀', "jjwe"), ('쮜', "jjwi"), ('쮸', "jjyu"), ('쯔', "jjeu"),
    ('쯰', "jjui"), ('찌', "jji"), ('찍', "jjik"), ('찔', "jjil"), ('찢', "jjit"), ('차', "cha"),
    ('착', "chak"), ('찬', "chan"), ('찮', "chan"), ('찰', "chal"), ('참', "cham"), ('찹', "chap"),
    ('창', "chang"), ('찾', "chat"), ('채', "chae"), ('책', "chaek"), ('챔', "chaem"),
    ('챙', "chaeng"), ('챠', "chya"), ('챼', "chyae"), ('처', "cheo"), ('첨', "cheom"),
    ('첩', "cheop"), ('첫', "cheot"), ('청', "cheong"), ('체', "che"), ('첸', "chen"), ('첼', "chel"),
    ('쳐', "chyeo"), ('쳬', "chye"), ('초', "cho"), ('촉', "chok"), ('촌', "chon"), ('총', "chong"),
    ('촤', "chwa"), ('촬', "chwal"), ('쵀', "chwae"), ('최', "choe"), ('쵸', "chyo"), ('추', "chu"),
    ('축', "chuk"), ('춘', "chun"), ('출', "chul"), ('춤', "chum"), ('충', "chung"), ('춰', "chwo"),
    ('췌', "chwe"), ('취', "chwi"), ('츄', "chyu"), ('츠', "cheu"), ('층', "cheung"), ('츼', "chui"),
    ('치', "chi"), ('칙', "chik"), ('친', "chin"), ('칠', "chil"), ('침', "chim"), ('칩', "chip"),
    ('칭', "ching"), ('카', "ka"), ('칼', "kal"), ('캄', "kam"), ('캐', "kae"), ('캔', "kaen"),
    ('캘', "kael"), ('캠', "kaem"), ('캬', "kya"), ('컈', "kyae"), ('커', "keo"), ('컨', "keon"),
    ('컬', "keol"), ('컴', "keom"), ('컵', "keop"), ('컷', "keot"), ('케', "ke"), ('켓', "ket"),
    ('켜', "kyeo"), ('켠', "kyeon"), ('켸', "kye"), ('코', "ko"), ('콘', "kon"), ('콜', "kol"),
    ('콤', "kom"), ('콩', "kong"), ('콰', "kwa"), ('쾌', "kwae"), ('쾨', "koe"), ('쿄', "kyo"),
    ('쿠', "ku"), ('쿼', "kwo"), ('퀘', "kwe"), ('퀴', "kwi"), ('큐', "kyu"), ('크', "keu"),
    ('큰', "keun"), ('클', "keul"), ('큼', "keum"), ('킈', "kui"), ('키', "ki"), ('킨', "kin"),
    ('킬', "kil"), ('킴', "kim"), ('킹', "king"), ('타', "ta"), ('탁', "tak"), ('탄', "tan"),
    ('탈', "tal"), ('탐', "tam"), ('탑', "tap"), ('탓', "tat"), ('탕', "tang"), ('태', "tae"),
    ('택', "taek"), ('탠', "taen"), ('탤', "tael"), ('탬', "taem"), ('탱', "taeng"), ('탸', "tya"),
    ('턔', "tyae"), ('터', "teo"), ('턱', "teok"), ('턴', "teon"), ('털', "teol"), ('텅', "teong"),
    ('테', "te"), ('텍', "tek"), ('텐', "ten"), ('텔', "tel"), ('템', "tem"), ('텨', "tyeo"),
    ('톄', "tye"), ('토', "to"), ('톡', "tok"), ('톤', "ton"), ('톨', "tol"), ('톰', "tom"),
    ('톱', "top"), ('통', "tong"), ('톼', "twa"), ('퇘', "twae"), ('퇴', "toe"), ('툐', "tyo"),
    ('투', "tu"), ('툴', "tul"), ('퉁', "tung"), ('퉈', "two"), ('퉤', "twe"), ('튀', "twi"),
    ('튜', "tyu"), ('트', "teu"), ('특', "teuk"), ('튼', "teun"), ('틀', "teul"), ('틈', "teum"),
    ('틔', "tui"), ('티', "ti"), ('틱', "tik"), ('틴', "tin"), ('틸', "til"), ('팀', "tim"),
    ('팁', "tip"), ('팅', "ting"), ('파', "pa"), ('판', "pan"), ('팔', "pal"), ('팜', "pam"),
    ('팝', "pap"), ('팟', "pat"), ('팡', "pang"), ('팥', "pat"), ('패', "pae"), ('팩', "paek"),
    ('팬', "paen"), ('팽', "paeng"), ('퍄', "pya"), ('퍠', "pyae"), ('퍼', "peo"), ('펀', "peon"),
    ('펄', "peol"), ('펌', "peom"), ('펑', "peong"), ('페', "pe"), ('펜', "pen"), ('펠', "pel"),
    ('펴', "pyeo"), ('편', "pyeon"), ('펼', "pyeol"), ('평', "pyeong"), ('폐', "pye"), ('포', "po"),
    ('폭', "pok"), ('폰', "pon"), ('폴', "pol"), ('폼', "pom"), ('퐁', "pong"), ('퐈', "pwa"),
    ('퐤', "pwae"), ('푀', "poe"), ('표', "pyo"), ('푸', "pu"), ('푼', "pun"), ('풀', "pul"),
    ('품', "pum"), ('풍', "pung"), ('풔', "pwo"), ('풰', "pwe"), ('퓌', "pwi"), ('퓨', "pyu"),
    ('프', "peu"), ('픈', "peun"), ('플', "peul"), ('픔', "peum"), ('픠', "pui"), ('피', "pi"),
    ('픽', "pik"), ('핀', "pin"), ('필', "pil"), ('핍', "pip"), ('핑', "ping"), ('하', "ha"),
    ('학', "hak"), ('한', "han"), ('할', "hal"), ('함', "ham"), ('합', "hap"), ('핫', "hat"),
    ('항', "hang"), ('해', "hae"), ('핵', "haek"), ('핸', "haen"), ('햄', "haem"), ('햇', "haet"),
    ('했', "haet"), ('행', "haeng"), ('햐', "hya"), ('향', "hyang"), ('햬', "hyae"), ('허', "heo"),
    ('헌', "heon"), ('헐', "heol"), ('험', "heom"), ('헤', "he"), ('헥', "hek"), ('헨', "hen"),
    ('헬', "hel"), ('혀', "hyeo"), ('혁', "hyeok"), ('현', "hyeon"), ('혈', "hyeol"), ('혐', "hyeom"),
    ('협', "hyeop"), ('형', "hyeong"), ('혜', "hye"), ('호', "ho"), ('혹', "hok"), ('혼', "hon"),
    ('홀', "hol"), ('홈', "hom"), ('홉', "hop"), ('홍', "hong"), ('화', "hwa"), ('확', "hwak"),
    ('환', "hwan"), ('활', "hwal"), ('황', "hwang"), ('홰', "hwae"), ('회', "hoe"), ('획', "hoek"),
    ('횡', "hoeng"), ('효', "hyo"), ('후', "hu"), ('훈', "hun"), ('훌', "hul"), ('훔', "hum"),
    ('훠', "hwo"), ('훼', "hwe"), ('휘', "hwi"), ('휴', "hyu"), ('흉', "hyung"), ('흐', "heu"),
    ('흑', "heuk"), ('흔', "heun"), ('흘', "heul"), ('흙', "heuk"), ('흠', "heum"), ('흡', "heup"),
    ('흥', "heung"), ('흩', "heut"), ('희', "hui"), ('흰', "huin"), ('히', "hi"), ('힌', "hin"),
    ('힐', "hil"), ('힘', "him"), ('힙', "hip")
  ]

/-- The romanization of McCune and Reischauer, by syllable. -/
def mcCuneReischauerTable : List (Char × String) :=
  [
    ('가', "ka"), ('각', "kak"), ('간', "kan"), ('갈', "kal"), ('감', "kam"), ('갑', "kap"),
    ('강', "kang"), ('개', "kae"), ('객', "kaek"), ('갸', "kya"), ('걔', "kyae"), ('거', "kŏ"),
    ('건', "kŏn"), ('걸', "kŏl"), ('검', "kŏm"), ('겁', "kŏp"), ('것', "kŏt"), ('겉', "kŏt"),
    ('게', "ke"), ('겨', "kyŏ"), ('견', "kyŏn"), ('결', "kyŏl"), ('겸', "kyŏm"), ('경', "kyŏng"),
    ('계', "kye"), ('고', "ko"), ('곡', "kok"), ('곤', "kon"), ('골', "kol"), ('곰', "kom"),
    ('곱', "kop"), ('공', "kong"), ('곶', "kot"), ('과', "kwa"), ('관', "kwan"), ('괄', "kwal"),
    ('광', "kwang"), ('괘', "kwae"), ('괴', "koe"), ('교', "kyo"), ('구', "ku"), ('국', "kuk"),
    ('군', "kun"), ('굴', "kul"), ('굵', "kuk"), ('굽', "kup"), ('궁', "kung"), ('궈', "kwŏ"),
    ('권', "kwŏn"), ('궐', "kwŏl"), ('궤', "kwe"), ('귀', "kwi"), ('규', "kyu"), ('균', "kyun"),
    ('귤', "kyul"), ('그', "kŭ"), ('극', "kŭk"), ('근', "kŭn"), ('글', "kŭl"), ('금', "kŭm"),
    ('급', "kŭp"), ('긍', "kŭng"), ('긔', "kŭi"), ('기', "ki"), ('긴', "kin"), ('길', "kil"),
    ('김', "kim"), ('깃', "kit"), ('깊', "kip"), ('까', "kka"), ('깍', "kkak"), ('깎', "kkak"),
    ('깐', "kkan"), ('깔', "kkal"), ('깜', "kkam"), ('깝', "kkap"), ('깡', "kkang"), ('깨', "kkae"),
    ('꺄', "kkya"), ('꺠', "kkyae"), ('꺼', "kkŏ"), ('껍', "kkŏp"), ('껏', "kkŏt"), ('껑', "kkŏng"),
    ('께', "kke"), ('껴', "kkyŏ"), ('꼐', "kkye"), ('꼬', "kko"), ('꼭', "kkok"), ('꼴', "kkol"),
    ('꼼', "kkom"), ('꽃', "kkot"), ('꽈', "kkwa"), ('꽉', "kkwak"), ('꽝', "kkwang"),
    ('꽤', "kkwae"), ('꾀', "kkoe"), ('꾜', "kkyo"), ('꾸', "kku"), ('꾼', "kkun"), ('꿀', "kkul"),
    ('꿈', "kkum"), ('꿍', "kkung"), ('꿔', "kkwŏ"), ('꿩', "kkwŏng"), ('꿰', "kkwe"), ('뀌', "kkwi"),
    ('뀨', "kkyu"), ('끄', "kkŭ"), ('끈', "kkŭn"), ('끌', "kkŭl"), ('끓', "kkŭl"), ('끔', "kkŭm"),
    ('끗', "kkŭt"), ('끝', "kkŭt"), ('끠', "kkŭi"), ('끼', "kki"), ('낀', "kkin"), ('낄', "kkil"),
    ('낌', "kkim"), ('나', "na"), ('낙', "nak"), ('낚', "nak"), ('난', "nan"), ('날', "nal"),
    ('낡', "nak"), ('남', "nam"), ('납', "nap"), ('낫', "nat"), ('났', "nat"), ('낭', "nang"),
    ('낮', "nat"), ('낯', "nat"), ('낱', "nat"), ('낳', "nat"), ('내', "nae"), ('냄', "naem"),
    ('냉', "naeng"), ('냐', "nya"), ('냥', "nyang"), ('냬', "nyae"), ('너', "nŏ"), ('넉', "nŏk"),
    ('넌', "nŏn"), ('널', "nŏl"), ('넓', "nŏp"), ('넘', "nŏm"), ('넣', "nŏt"), ('네', "ne"),
    ('넥', "nek"), ('넨', "nen"), ('넷', "net"), ('녀', "nyŏ"), ('녁', "nyŏk"), ('년', "nyŏn"),
    ('념', "nyŏm"), ('녕', "nyŏng"), ('녘', "nyŏk"), ('녜', "nye"), ('노', "no"), ('녹', "nok"),
    ('논', "non"), ('놀', "nol"), ('놈', "nom"), ('농', "nong"), ('높', "nop"), ('놓', "not"),
    ('놔', "nwa"), ('놰', "nwae"), ('뇌', "noe"), ('뇨', "nyo"), ('누', "nu"), ('눈', "nun"),
    ('눌', "nul"), ('눠', "nwŏ"), ('눼', "nwe"), ('뉘', "nwi"), ('뉴', "nyu"), ('느', "nŭ"),
    ('늘', "nŭl"), ('늠', "nŭm"), ('능', "nŭng"), ('늦', "nŭt"), ('늬', "nŭi"), ('니', "ni"),
    ('닉', "nik"), ('닌', "nin"), ('닐', "nil"), ('님', "nim"), ('닙', "nip"), ('다', "ta"),
    ('닥', "tak"), ('닦', "tak"), ('단', "tan"), ('닫', "tat"), ('달', "tal"), ('닭', "tak"),
    ('닮', "tam"), ('담', "tam"), ('답', "tap"), ('닷', "tat"), ('당', "tang"), ('닿', "tat"),
    ('대', "tae"), ('댁', "taek"), ('댄', "taen"), ('댐', "taem"), ('댓', "taet"), ('댜', "tya"),
    ('댸', "tyae"), ('더', "tŏ"), ('덕', "tŏk"), ('던', "tŏn"), ('덜', "tŏl"), ('덤', "tŏm"),
    ('덧', "tŏt"), ('덩', "tŏng"), ('덮', "tŏp"), ('데', "te"), ('덴', "ten"), ('델', "tel"),
    ('뎌', "tyŏ"), ('뎨', "tye"), ('도', "to"), ('독', "tok"), ('돈', "ton"), ('돋', "tot"),
    ('돌', "tol"), ('돔', "tom"), ('돕', "top"), ('동', "tong"), ('돠', "twa"), ('돼', "twae"),
    ('됐', "twaet"), ('되', "toe"), ('됴', "tyo"), ('두', "tu"), ('둑', "tuk"), ('둔', "tun"),
    ('둘', "tul"), ('둠', "tum"), ('둥', "tung"), ('둬', "twŏ"), ('뒈', "twe"), ('뒤', "twi"),
    ('뒷', "twit"), ('듀', "tyu"), ('드', "tŭ"), ('득', "tŭk"), ('든', "tŭn"), ('듣', "tŭt"),
    ('들', "tŭl"), ('듬', "tŭm"), ('듭', "tŭp"), ('등', "tŭng"), ('듸', "tŭi"), ('디', "ti"),
    ('딩', "ting"), ('따', "tta"), ('딱', "ttak"), ('딴', "ttan"), ('딸', "ttal"), ('땀', "ttam"),
    ('땅', "ttang"), ('때', "ttae"), ('땐', "ttaen"), ('땨', "ttya"), ('떄', "ttyae"), ('떠', "ttŏ"),
    ('떡', "ttŏk"), ('떤', "ttŏn"), ('떨', "ttŏl"), ('떼', "tte"), ('뗘', "ttyŏ"), ('뗴', "ttye"),
    ('또', "tto"), ('똑', "ttok"), ('똬', "ttwa"), ('뙈', "ttwae"), ('뙤', "ttoe"), ('뚀', "ttyo"),
    ('뚜', "ttu"), ('뚝', "ttuk"), ('뚸', "ttwŏ"), ('뛔', "ttwe"), ('뛰', "ttwi"), ('뛴', "ttwin"),
    ('뜌', "ttyu"), ('뜨', "ttŭ"), ('뜩', "ttŭk"), ('뜬', "ttŭn"), ('뜰', "ttŭl"), ('뜻', "ttŭt"),
    ('띄', "ttŭi"), ('띠', "tti"), ('라', "ra"), ('락', "rak"), ('란', "ran"), ('랄', "ral"),
    ('람', "ram"), ('랍', "rap"), ('랑', "rang"), ('랗', "rat"), ('래', "rae"), ('랫', "raet"),
    ('랭', "raeng"), ('랴', "rya"), ('략', "ryak"), ('량', "ryang"), ('럐', "ryae"), ('러', "rŏ"),
    ('럭', "rŏk"), ('런', "rŏn"), ('럴', "rŏl"), ('럼', "rŏm"), ('럽', "rŏp"), ('렁', "rŏng"),
    ('렇', "rŏt"), ('레', "re"), ('려', "ryŏ"), ('력', "ryŏk"), ('련', "ryŏn"), ('렬', "ryŏl"),
    ('렴', "ryŏm"), ('렵', "ryŏp"), ('령', "ryŏng"), ('례', "rye"), ('로', "ro"), ('록', "rok"),
    ('론', "ron"), ('롤', "rol"), ('롬', "rom"), ('롭', "rop"), ('롱', "rong"), ('롸', "rwa"),
    ('뢔', "rwae"), ('뢰', "roe"), ('료', "ryo"), ('룡', "ryong"), ('루', "ru"), ('룩', "ruk"),
    ('룬', "run"), ('룰', "rul"), ('룸', "rum"), ('룹', "rup"), ('뤄', "rwŏ"), ('뤠', "rwe"),
    ('뤼', "rwi"), ('류', "ryu"), ('률', "ryul"), ('륨', "ryum"), ('륭', "ryung"), ('르', "rŭ"),
    ('륵', "rŭk"), ('른', "rŭn"), ('를', "rŭl"), ('름', "rŭm"), ('릅', "rŭp"), ('릇', "rŭt"),
    ('릉', "rŭng"), ('릐', "rŭi"), ('리', "ri"), ('릭', "rik"), ('린', "rin"), ('릴', "ril"),
    ('림', "rim"), ('립', "rip"), ('릿', "rit"), ('링', "ring"), ('마', "ma"), ('막', "mak"),
    ('만', "man"), ('많', "man"), ('말', "mal"), ('맑', "mak"), ('맘', "mam"), ('맛', "mat"),
    ('망', "mang"), ('맞', "mat"), ('맡', "mat"), ('매', "mae"), ('맥', "maek"), ('맨', "maen"),
    ('맵', "maep"), ('맺', "maet"), ('먀', "mya"), ('먜', "myae"), ('머', "mŏ"), ('멋', "mŏt"),
    ('멍', "mŏng"), ('메', "me"), ('멘', "men"), ('멜', "mel"), ('며', "myŏ"), ('멸', "myŏl"),
    ('명', "myŏng"), ('몇', "myŏt"), ('몌', "mye"), ('모', "mo"), ('목', "mok"), ('몰', "mol"),
    ('몸', "mom"), ('몹', "mop"), ('못', "mot"), ('몽', "mong"), ('뫄', "mwa"), ('뫠', "mwae"),
    ('뫼', "moe"), ('묘', "myo"), ('무', "mu"), ('묵', "muk"), ('묶', "muk"), ('문', "mun"),
    ('묻', "mut"), ('물', "mul"), ('뭇', "mut"), ('뭐', "mwŏ"), ('뭬', "mwe"), ('뮈', "mwi"),
    ('뮤', "myu"), ('므', "mŭ"), ('믜', "mŭi"), ('미', "mi"), ('민', "min"), ('믿', "mit"),
    ('밀', "mil"), ('밉', "mip"), ('밑', "mit"), ('바', "pa"), ('박', "pak"), ('밖', "pak"),
    ('반', "pan"), ('받', "pat"), ('발', "pal"), ('밝', "pak"), ('밤', "pam"), ('밥', "pap"),
    ('방', "pang"), ('밭', "pat"), ('배', "pae"), ('백', "paek"), ('밴', "paen"), ('뱀', "paem"),
    ('뱃', "paet"), ('뱌', "pya"), ('뱨', "pyae"), ('버', "pŏ"), ('벅', "pŏk"), ('번', "pŏn"),
    ('벌', "pŏl"), ('범', "pŏm"), ('법', "pŏp"), ('벗', "pŏt"), ('벙', "pŏng"), ('베', "pe"),
    ('벼', "pyŏ"), ('벽', "pyŏk"), ('변', "pyŏn"), ('별', "pyŏl"), ('병', "pyŏng"), ('볕', "pyŏt"),
    ('볘', "pye"), ('보', "po"), ('복', "pok"), ('볶', "pok"), ('본', "pon"), ('볼', "pol"),
    ('봄', "pom"), ('봅', "pop"), ('봇', "pot"), ('봉', "pong"), ('봐', "pwa"), ('봬', "pwae"),
    ('뵈', "poe"), ('뵤', "pyo"), ('부', "pu"), ('북', "puk"), ('분', "pun"), ('불', "pul"),
    ('붉', "puk"), ('붐', "pum"), ('붓', "put"), ('붕', "pung"), ('붙', "put"), ('붜', "pwŏ"),
    ('붸', "pwe"), ('뷔', "pwi"), ('뷰', "pyu"), ('브', "pŭ"), ('븨', "pŭi"), ('비', "pi"),
    ('빈', "pin"), ('빌', "pil"), ('빔', "pim"), ('빗', "pit"), ('빙', "ping"), ('빚', "pit"),
    ('빛', "pit"), ('빠', "ppa"), ('빡', "ppak"), ('빨', "ppal"), ('빵', "ppang"), ('빼', "ppae"),
    ('빽', "ppaek"), ('뺘', "ppya"), ('뺴', "ppyae"), ('뻐', "ppŏ"), ('뻔', "ppŏn"), ('뻬', "ppe"),
    ('뼈', "ppyŏ"), ('뼘', "ppyŏm"), ('뼤', "ppye"), ('뽀', "ppo"), ('뽑', "ppop"), ('뽜', "ppwa"),
    ('뽸', "ppwae"), ('뾔', "ppoe"), ('뾰', "ppyo"), ('뿌', "ppu"), ('뿐', "ppun"), ('뿨', "ppwŏ"),
    ('쀄', "ppwe"), ('쀠', "ppwi"), ('쀼', "ppyu"), ('쁘', "ppŭ"), ('쁜', "ppŭn"), ('쁴', "ppŭi"),
    ('삐', "ppi"), ('사', "sa"), ('삭', "sak"), ('산', "san"), ('살', "sal"), ('삶', "sam"),
    ('삼', "sam"), ('삽', "sap"), ('상', "sang"), ('새', "sae"), ('색', "saek"), ('샌', "saen"),
    ('생', "saeng"), ('샤', "sya"), ('섀', "syae"), ('서', "sŏ"), ('석', "sŏk"), ('섞', "sŏk"),
    ('선', "sŏn"), ('설', "sŏl"), ('섬', "sŏm"), ('섭', "sŏp"), ('섯', "sŏt"), ('성', "sŏng"),
    ('세', "se"), ('섹', "sek"), ('센', "sen"), ('셀', "sel"), ('셈', "sem"), ('셋', "set"),
    ('셔', "syŏ"), ('션', "syŏn"), ('셰', "sye"), ('소', "so"), ('속', "sok"), ('손', "son"),
    ('솔', "sol"), ('솜', "som"), ('송', "song"), ('솨', "swa"), ('쇄', "swae"), ('쇠', "soe"),
    ('쇼', "syo"), ('수', "su"), ('숙', "suk"), ('순', "sun"), ('술', "sul"), ('숨', "sum"),
    ('숫', "sut"), ('숭', "sung"), ('숲', "sup"), ('숴', "swŏ"), ('쉐', "swe"), ('쉬', "shwi"),
    ('슈', "syu"), ('스', "sŭ"), ('슨', "sŭn"), ('슬', "sŭl"), ('슴', "sŭm"), ('습', "sŭp"),
    ('승', "sŭng"), ('싀', "sŭi"), ('시', "shi"), ('식', "shik"), ('신', "shin"), ('실', "shil"),
    ('싫', "shil"), ('심', "shim"), ('십', "ship"), ('싱', "shing"), ('싶', "ship"), ('싸', "ssa"),
    ('싹', "ssak"), ('싼', "ssan"), ('쌀', "ssal"), ('쌍', "ssang"), ('쌓', "ssat"), ('쌔', "ssae"),
    ('쌰', "ssya"), ('썌', "ssyae"), ('써', "ssŏ"), ('썩', "ssŏk"), ('썰', "ssŏl"), ('쎄', "sse"),
    ('쎠', "ssyŏ"), ('쎼', "ssye"), ('쏘', "sso"), ('쏴', "sswa"), ('쐐', "sswae"), ('쐬', "ssoe"),
    ('쑈', "ssyo"), ('쑤', "ssu"), ('쑥', "ssuk"), ('쒀', "sswŏ"), ('쒜', "sswe"), ('쒸', "sswi"),
    ('쓔', "ssyu"), ('쓰', "ssŭ"), ('쓴', "ssŭn"), ('쓸', "ssŭl"), ('씀', "ssŭm"), ('씌', "ssŭi"),
    ('씨', "ssi"), ('씩', "ssik"), ('씬', "ssin"), ('씻', "ssit"), ('아', "a"), ('악', "ak"),
    ('안', "an"), ('앉', "an"), ('않', "an"), ('알', "al"), ('앓', "al"), ('암', "am"), ('압', "ap"),
    ('앗', "at"), ('았', "at"), ('앙', "ang"), ('앞', "ap"), ('애', "ae"), ('액', "aek"),
    ('앤', "aen"), ('앨', "ael"), ('앵', "aeng"), ('야', "ya"), ('약', "yak"), ('얀', "yan"),
    ('얇', "yap"), ('양', "yang"), ('얕', "yat"), ('얘', "yae"), ('어', "ŏ"), ('억', "ŏk"),
    ('언', "ŏn"), ('얻', "ŏt"), ('얼', "ŏl"), ('엄', "ŏm"), ('업', "ŏp"), ('없', "ŏp"), ('었', "ŏt"),
    ('엉', "ŏng"), ('엎', "ŏp"), ('에', "e"), ('엔', "en"), ('엘', "el"), ('엠', "em"), ('여', "yŏ"),
    ('역', "yŏk"), ('엮', "yŏk"), ('연', "yŏn"), ('열', "yŏl"), ('염', "yŏm"), ('엽', "yŏp"),
    ('엿', "yŏt"), ('였', "yŏt"), ('영', "yŏng"), ('옆', "yŏp"), ('예', "ye"), ('오', "o"),
    ('옥', "ok"), ('온', "on"), ('올', "ol"), ('옮', "om"), ('옳', "ol"), ('옷', "ot"), ('옹', "ong"),
    ('와', "wa"), ('왕', "wang"), ('왜', "wae"), ('왠', "waen"), ('외', "oe"), ('왼', "oen"),
    ('요', "yo"), ('욕', "yok"), ('용', "yong"), ('우', "u"), ('욱', "uk"), ('운', "un"), ('울', "ul"),
    ('움', "um"), ('웃', "ut"), ('웅', "ung"), ('워', "wŏ"), ('원', "wŏn"), ('월', "wŏl"),
    ('웨', "we"), ('웬', "wen"), ('웹', "wep"), ('위', "wi"), ('윗', "wit"), ('유', "yu"),
    ('윤', "yun"), ('율', "yul"), ('융', "yung"), ('으', "ŭ"), ('은', "ŭn"), ('을', "ŭl"),
    ('음', "ŭm"), ('읍', "ŭp"), ('응', "ŭng"), ('의', "ŭi"), ('이', "i"), ('읽', "ik"), ('잃', "il"),
    ('임', "im"), ('입', "ip"), ('잇', "it"), ('있', "it"), ('잉', "ing"), ('잊', "it"), ('잎', "ip"),
    ('자', "cha"), ('작', "chak"), ('잔', "chan"), ('잖', "chan"), ('잘', "chal"), ('잠', "cham"),
    ('잡', "chap"), ('잣', "chat"), ('장', "chang"), ('잦', "chat"), ('재', "chae"), ('잭', "chaek"),
    ('잼', "chaem"), ('쟁', "chaeng"), ('쟈', "chya"), ('쟤', "chyae"), ('저', "chŏ"), ('적', "chŏk"),
    ('전', "chŏn"), ('절', "chŏl"), ('젊', "chŏm"), ('점', "chŏm"), ('접', "chŏp"), ('젓', "chŏt"),
    ('정', "chŏng"), ('젖', "chŏt"), ('제', "che"), ('젠', "chen"), ('젤', "chel"), ('져', "chyŏ"),
    ('졔', "chye"), ('조', "cho"), ('족', "chok"), ('존', "chon"), ('졸', "chol"), ('좀', "chom"),
    ('좁', "chop"), ('종', "chong"), ('좋', "chot"), ('좌', "chwa"), ('좍', "chwak"), ('좨', "chwae"),
    ('죄', "choe"), ('죠', "chyo"), ('주', "chu"), ('죽', "chuk"), ('준', "chun"), ('줄', "chul"),
    ('줌', "chum"), ('줍', "chup"), ('중', "chung"), ('줘', "chwŏ"), ('줴', "chwe"), ('쥐', "chwi"),
    ('쥬', "chyu"), ('즈', "chŭ"), ('즉', "chŭk"), ('즐', "chŭl"), ('증', "chŭng"), ('즤', "chŭi"),
    ('지', "chi"), ('직', "chik"), ('진', "chin"), ('질', "chil"), ('짐', "chim"), ('집', "chip"),
    ('짓', "chit"), ('징', "ching"), ('짙', "chit"), ('짚', "chip"), ('짜', "tcha"), ('짝', "tchak"),
    ('짠', "tchan"), ('짧', "tchap"), ('짱', "tchang"), ('째', "tchae"), ('쨔', "tchya"),
    ('쨰', "tchyae"), ('쩌', "tchŏ"), ('쩍', "tchŏk"), ('쩨', "tche"), ('쪄', "tchyŏ"),
    ('쪠', "tchye"), ('쪼', "tcho"), ('쪽', "tchok"), ('쫓', "tchot"), ('쫘', "tchwa"),
    ('쫴', "tchwae"), ('쬐', "tchoe"), ('쬬', "tchyo"), ('쭈', "tchu"), ('쭉', "tchuk"),
    ('쭤', "tchwŏ"), ('쮀', "tchwe"), ('쮜', "tchwi"), ('쮸', "tchyu"), ('쯔', "tchŭ"),
    ('쯰', "tchŭi"), ('찌', "tchi"), ('찍', "tchik"), ('찔', "tchil"), ('찢', "tchit"),
    ('차', "ch'a"), ('착', "ch'ak"), ('찬', "ch'an"), ('찮', "ch'an"), ('찰', "ch'al"),
    ('참', "ch'am"), ('찹', "ch'ap"), ('창', "ch'ang"), ('찾', "ch'at"), ('채', "ch'ae"),
    ('책', "ch'aek"), ('챔', "ch'aem"), ('챙', "ch'aeng"), ('챠', "ch'ya"), ('챼', "ch'yae"),
    ('처', "ch'ŏ"), ('첨', "ch'ŏm"), ('첩', "ch'ŏp"), ('첫', "ch'ŏt"), ('청', "ch'ŏng"),
    ('체', "ch'e"), ('첸', "ch'en"), ('첼', "ch'el"), ('쳐', "ch'yŏ"), ('쳬', "ch'ye"),
    ('초', "ch'o"), ('촉', "ch'ok"), ('촌', "ch'on"), ('총', "ch'ong"), ('촤', "ch'wa"),
    ('촬', "ch'wal"), ('쵀', "ch'wae"), ('최', "ch'oe"), ('쵸', "ch'yo"), ('추', "ch'u"),
    ('축', "ch'uk"), ('춘', "ch'un"), ('출', "ch'ul"), ('춤', "ch'um"), ('충', "ch'ung"),
    ('춰', "ch'wŏ"), ('췌', "ch'we"), ('취', "ch'wi"), ('츄', "ch'yu"), ('츠', "ch'ŭ"),
    ('층', "ch'ŭng"), ('츼', "ch'ŭi"), ('치', "ch'i"), ('칙', "ch'ik"), ('친', "ch'in"),
    ('칠', "ch'il"), ('침', "ch'im"), ('칩', "ch'ip"), ('칭', "ch'ing"), ('카', "k'a"),
    ('칼', "k'al"), ('캄', "k'am"), ('캐', "k'ae"), ('캔', "k'aen"), ('캘', "k'ael"), ('캠', "k'aem"),
    ('캬', "k'ya"), ('컈', "k'yae"), ('커', "k'ŏ"), ('컨', "k'ŏn"), ('컬', "k'ŏl"), ('컴', "k'ŏm"),
    ('컵', "k'ŏp"), ('컷', "k'ŏt"), ('케', "k'e"), ('켓', "k'et"), ('켜', "k'yŏ"), ('켠', "k'yŏn"),
    ('켸', "k'ye"), ('코', "k'o"), ('콘', "k'on"), ('콜', "k'ol"), ('콤', "k'om"), ('콩', "k'ong"),
    ('콰', "k'wa"), ('쾌', "k'wae"), ('쾨', "k'oe"), ('쿄', "k'yo"), ('쿠', "k'u"), ('쿼', "k'wŏ"),
    ('퀘', "k'we"), ('퀴', "k'wi"), ('큐', "k'yu"), ('크', "k'ŭ"), ('큰', "k'ŭn"), ('클', "k'ŭl"),
    ('큼', "k'ŭm"), ('킈', "k'ŭi"), ('키', "k'i"), ('킨', "k'in"), ('킬', "k'il"), ('킴', "k'im"),
    ('킹', "k'ing"), ('타', "t'a"), ('탁', "t'ak"), ('탄', "t'an"), ('탈', "t'al"), ('탐', "t'am"),
    ('탑', "t'ap"), ('탓', "t'at"), ('탕', "t'ang"), ('태', "t'ae"), ('택', "t'aek"), ('탠', "t'aen"),
    ('탤', "t'ael"), ('탬', "t'aem"), ('탱', "t'aeng"), ('탸', "t'ya"), ('턔', "t'yae"),
    ('터', "t'ŏ"), ('턱', "t'ŏk"), ('턴', "t'ŏn"), ('털', "t'ŏl"), ('텅', "t'ŏng"), ('테', "t'e"),
    ('텍', "t'ek"), ('텐', "t'en"), ('텔', "t'el"), ('템', "t'em"), ('텨', "t'yŏ"), ('톄', "t'ye"),
    ('토', "t'o"), ('톡', "t'ok"), ('톤', "t'on"), ('톨', "t'ol"), ('톰', "t'om"), ('톱', "t'op"),
    ('통', "t'ong"), ('톼', "t'wa"), ('퇘', "t'wae"), ('퇴', "t'oe"), ('툐', "t'yo"), ('투', "t'u"),
    ('툴', "t'ul"), ('퉁', "t'ung"), ('퉈', "t'wŏ"), ('퉤', "t'we"), ('튀', "t'wi"), ('튜', "t'yu"),
    ('트', "t'ŭ"), ('특', "t'ŭk"), ('튼', "t'ŭn"), ('틀', "t'ŭl"), ('틈', "t'ŭm"), ('틔', "t'ŭi"),
    ('티', "t'i"), ('틱', "t'ik"), ('틴', "t'in"), ('틸', "t'il"), ('팀', "t'im"), ('팁', "t'ip"),
    ('팅', "t'ing"), ('파', "p'a"), ('판', "p'an"), ('팔', "p'al"), ('팜', "p'am"), ('팝', "p'ap"),
    ('팟', "p'at"), ('팡', "p'ang"), ('팥', "p'at"), ('패', "p'ae"), ('팩', "p'aek"), ('팬', "p'aen"),
    ('팽', "p'aeng"), ('퍄', "p'ya"), ('퍠', "p'yae"), ('퍼', "p'ŏ"), ('펀', "p'ŏn"), ('펄', "p'ŏl"),
    ('펌', "p'ŏm"), ('펑', "p'ŏng"), ('페', "p'e"), ('펜', "p'en"), ('펠', "p'el"), ('펴', "p'yŏ"),
    ('편', "p'yŏn"), ('펼', "p'yŏl"), ('평', "p'yŏng"), ('폐', "p'ye"), ('포', "p'o"), ('폭', "p'ok"),
    ('폰', "p'on"), ('폴', "p'ol"), ('폼', "p'om"), ('퐁', "p'ong"), ('퐈', "p'wa"), ('퐤', "p'wae"),
    ('푀', "p'oe"), ('표', "p'yo"), ('푸', "p'u"), ('푼', "p'un"), ('풀', "p'ul"), ('품', "p'um"),
    ('풍', "p'ung"), ('풔', "p'wŏ"), ('풰', "p'we"), ('퓌', "p'wi"), ('퓨', "p'yu"), ('프', "p'ŭ"),
    ('픈', "p'ŭn"), ('플', "p'ŭl"), ('픔', "p'ŭm"), ('픠', "p'ŭi"), ('피', "p'i"), ('픽', "p'ik"),
    ('핀', "p'in"), ('필', "p'il"), ('핍', "p'ip"), ('핑', "p'ing"), ('하', "ha"), ('학', "hak"),
    ('한', "han"), ('할', "hal"), ('함', "ham"), ('합', "hap"), ('핫', "hat"), ('항', "hang"),
    ('해', "hae"), ('핵', "haek"), ('핸', "haen"), ('햄', "haem"), ('햇', "haet"), ('했', "haet"),
    ('행', "haeng"), ('햐', "hya"), ('향', "hyang"), ('햬', "hyae"), ('허', "hŏ"), ('헌', "hŏn"),
    ('헐', "hŏl"), ('험', "hŏm"), ('헤', "he"), ('헥', "hek"), ('헨', "hen"), ('헬', "hel"),
    ('혀', "hyŏ"), ('혁', "hyŏk"), ('현', "hyŏn"), ('혈', "hyŏl"), ('혐', "hyŏm"), ('협', "hyŏp"),
    ('형', "hyŏng"), ('혜', "hye"), ('호', "ho"), ('혹', "hok"), ('혼', "hon"), ('홀', "hol"),
    ('홈', "hom"), ('홉', "hop"), ('홍', "hong"), ('화', "hwa"), ('확', "hwak"), ('환', "hwan"),
    ('활', "hwal"), ('황', "hwang"), ('홰', "hwae"), ('회', "hoe"), ('획', "hoek"), ('횡', "hoeng"),
    ('효', "hyo"), ('후', "hu"), ('훈', "hun"), ('훌', "hul"), ('훔', "hum"), ('훠', "hwŏ"),
    ('훼', "hwe"), ('휘', "hwi"), ('휴', "hyu"), ('흉', "hyung"), ('흐', "hŭ"), ('흑', "hŭk"),
    ('흔', "hŭn"), ('흘', "hŭl"), ('흙', "hŭk"), ('흠', "hŭm"), ('흡', "hŭp"), ('흥', "hŭng"),
    ('흩', "hŭt"), ('희', "hŭi"), ('흰', "hŭin"), ('히', "hi"), ('힌', "hin"), ('힐', "hil"),
    ('힘', "him"), ('힙', "hip")
  ]

end Hangul

end GenreProse
